import AdsControl.Lib.History
import AdsControl.Reporting.OutboxWorker

/-!
# One mail for each report

Any number of workers run delivery passes over one outbox, while batches are planned and generated and
operators close attempts. Workers start, stop and are suspended between any two commands; a transaction
may fail, or commit and lose its acknowledgement; the provider answers anything. The log records the
claims, the requests that left and the refusals that arrived.

* `mailAnswers`: what the outbox and the provider may answer;
* `OutboxInv`: the invariant of outbox and log;
* **`report_mailed_once`**: at most one request of a batch may have been accepted.
-/

namespace AdsControl.Reporting.Outbox

open Fallible Interaction History

variable {W : Type}

/-! ## The world -/

/-- What a worker did to a delivery. -/
inductive MailEvent (W : Type)
  | claimed (worker : W) (batchId attemptNo : ℕ)
  | posted (worker : W) (batchId attemptNo : ℕ)
  | refused (batchId attemptNo : ℕ)
  deriving DecidableEq

/-- The delivery was claimed. -/
def MailEvent.isClaimed (batchId : ℕ) : MailEvent W → Bool
  | claimed _ batchId' _ => batchId' == batchId
  | _ => false

/-- The attempt that an event belongs to. -/
def MailEvent.attemptNo : MailEvent W → ℕ
  | claimed _ _ attemptNo => attemptNo
  | posted _ _ attemptNo => attemptNo
  | refused _ attemptNo => attemptNo

/-- A request that was accepted or whose result is unknown: no refusal arrived. -/
def MailEvent.isInconclusive [DecidableEq W] (log : List (MailEvent W)) (batchId : ℕ) :
    MailEvent W → Bool
  | posted _ batchId' attemptNo =>
    batchId' == batchId && !log.contains (MailEvent.refused batchId attemptNo)
  | _ => false

/-- The database and what happened. -/
structure MailWorld (W : Type) where
  db : OutboxDatabase
  log : List (MailEvent W)

/-- Add an event. -/
def MailWorld.record (s : MailWorld W) (event : MailEvent W) : MailWorld W :=
  { s with log := s.log ++ [event] }

/-- Commit a transaction. -/
def MailWorld.commit (s : MailWorld W) (db : OutboxDatabase) : MailWorld W := { s with db := db }

@[simp] theorem MailWorld.record_db (s : MailWorld W) (event : MailEvent W) :
    (s.record event).db = s.db := rfl

@[simp] theorem MailWorld.record_log (s : MailWorld W) (event : MailEvent W) :
    (s.record event).log = s.log ++ [event] := rfl

@[simp] theorem MailWorld.commit_db (s : MailWorld W) (db : OutboxDatabase) : (s.commit db).db = db := rfl

@[simp] theorem MailWorld.commit_log (s : MailWorld W) (db : OutboxDatabase) :
    (s.commit db).log = s.log := rfl

/-- A claim of worker `w` commits. -/
def MailWorld.commitClaim (s : MailWorld W) (w : W) :
    OutboxDatabase × Option ClaimedDelivery → MailWorld W
  | (db, none) => s.commit db
  | (db, some claim) => (s.commit db).record (.claimed w claim.batchId claim.attemptNo)

/-- What the commands of worker `w` may answer, and the world they leave. -/
def mailAnswers (w : W) (s : MailWorld W) : (c : MailCall) → c.Answer → MailWorld W → Prop
  | .now, _, t => t = s
  | .stopRequested, _, t => t = s
  | .hasReady now, answer, t =>
      t = s ∧ ∀ ready, answer = .ok ready → (ready = true ↔ hasReadyDelivery s.db now)
  | .authorize, _, t => t = s
  | .claim now, answer, t => ∃ selected, Transaction
      (fun _ : Unit => (claimReady s.db now selected).map fun result => (result, result.2))
      (s.commitClaim w) s answer t
  | .loadArtifact _, _, t => t = s
  | .prepareMessage _, _, t => t = s
  | .post claim, _, t => t = s.record (.posted w claim.batchId claim.attemptNo)
  | .receive _, .ok _, t => t = s
  | .receive _, .error .ambiguous, t => t = s
  | .receive claim, .error _, t => t = s.record (.refused claim.batchId claim.attemptNo)
  | .sent claim startedAt finishedAt providerMessageId, answer, t =>
      Transaction (fun updatedAt => recordSent s.db updatedAt claim startedAt finishedAt providerMessageId)
        s.commit s answer t
  | .transient claim startedAt finishedAt errorClass retryAt, answer, t =>
      Transaction (fun updatedAt =>
        recordTransientFailure s.db updatedAt claim startedAt finishedAt errorClass retryAt)
        s.commit s answer t
  | .exhausted claim startedAt finishedAt errorClass, answer, t =>
      Transaction (fun updatedAt => recordExhaustedFailure s.db updatedAt claim startedAt finishedAt errorClass)
        s.commit s answer t
  | .permanent claim startedAt finishedAt errorClass, answer, t =>
      Transaction (fun updatedAt => recordPermanentFailure s.db updatedAt claim startedAt finishedAt errorClass)
        s.commit s answer t

/-- The claim that a completion carries. -/
def MailCall.completes : MailCall → Option ClaimedDelivery
  | sent delivery _ _ _ => some delivery
  | transient delivery _ _ _ _ => some delivery
  | exhausted delivery _ _ _ => some delivery
  | permanent delivery _ _ _ => some delivery
  | _ => none

/-- The rest of the system: planning, generation and the operator. -/
inductive MailEnvironment (parse : DateParser) (s : MailWorld W) : MailWorld W → Prop
  | plan {nextId : ℕ} {delivery : PendingDelivery} {db : OutboxDatabase} {outcome : CreateOutcome}
      (h : createPlanned s.db nextId delivery = .ok (db, outcome)) :
      MailEnvironment parse s (s.commit db)
  | generate {batchId : ℕ} {db : OutboxDatabase} (h : startGeneration s.db batchId = .ok (db, ())) :
      MailEnvironment parse s (s.commit db)
  | publish {batchId : ℕ} {artifact : ArtifactIdentity} {db : OutboxDatabase}
      (h : markReady parse s.db batchId artifact = .ok (db, ())) :
      MailEnvironment parse s (s.commit db)
  | reconcile {batchId attemptNo : ℕ} {recipientId : String} {reportVersion : ℕ} {reconciledAt : ℤ}
      {decision : ReconciliationDecision} {db : OutboxDatabase} {outcome : ReconciliationOutcome}
      (h : reconcileSending s.db batchId attemptNo recipientId reportVersion reconciledAt decision =
        .ok (db, outcome)) : MailEnvironment parse s (s.commit db)

/-! ## The invariant -/

/-- What justifies an event. -/
def MailJustified (log : List (MailEvent W)) : MailEvent W → Prop
  | .claimed _ batchId attemptNo => attemptNo = log.countP (MailEvent.isClaimed batchId) + 1 ∧
      attemptNo ≤ maxDeliveryAttempts ∧
      ∀ w n, .posted w batchId n ∈ log → .refused batchId n ∈ log
  | .posted w batchId attemptNo => .claimed w batchId attemptNo ∈ log ∧
      ∀ w', .posted w' batchId attemptNo ∉ log
  | .refused _ _ => True

/-- A row and the history of its batch. -/
structure RowInv (log : List (MailEvent W)) (batchId : ℕ) (row : BatchRow) : Prop where
  counted : row.attempts = log.countP (MailEvent.isClaimed batchId)
  unclaimed : row.status = .planned ∨ row.status = .generating → row.attempts = 0
  settled : ∀ w n, .posted w batchId n ∈ log →
    .refused batchId n ∈ log ∨ n = row.attempts ∧ row.status ≠ .ready

/-- What holds in every reachable state. -/
structure OutboxInv (s : MailWorld W) : Prop where
  orderly : Orderly MailJustified s.log
  rows : ∀ batchId row, s.db.batches batchId = some row → RowInv s.log batchId row
  absent : ∀ batchId, s.db.batches batchId = none → ∀ w n, .claimed w batchId n ∉ s.log
  covered : (s.db.coverage.map CoverageRow.key).Nodup

/-- Sent and failed batches never change. -/
structure OutboxEvolves (s t : MailWorld W) : Prop where
  log : s.log <+: t.log
  rows : ∀ batchId row, s.db.batches batchId = some row → ∃ row', t.db.batches batchId = some row' ∧
    (row.status = .sent ∨ row.status = .permanentFailure → row' = row)

/-- The active attempt of a batch. -/
def Active (s : MailWorld W) (batchId attemptNo : ℕ) : Prop :=
  ∃ row, s.db.batches batchId = some row ∧ row.attempts = attemptNo ∧ row.status ≠ .ready

/-- The others neither send for a claim of `w` nor give it up. -/
structure OutboxSpares (w : W) (s t : MailWorld W) : Prop where
  posts : ∀ batchId n, .claimed w batchId n ∈ s.log → (∀ w', .posted w' batchId n ∉ s.log) →
    ∀ w', .posted w' batchId n ∉ t.log
  active : ∀ batchId n, .claimed w batchId n ∈ s.log → Active s batchId n → Active t batchId n

/-- The outbox as a state that workers share. -/
def outboxShared (W : Type) : Shared (MailWorld W) W MailCall MailCall.Answer where
  answers := mailAnswers
  inv := OutboxInv
  evolves := OutboxEvolves
  spares := OutboxSpares
  evolves_refl s := ⟨List.prefix_rfl, fun _ row h => ⟨row, h, fun _ => rfl⟩⟩
  evolves_trans {s t u} h h' := by
    refine ⟨h.log.trans h'.log, fun batchId row hrow => ?_⟩
    obtain ⟨row', hrow', hkept⟩ := h.rows batchId row hrow
    obtain ⟨row'', hrow'', hkept'⟩ := h'.rows batchId row' hrow'
    refine ⟨row'', hrow'', fun hterminal => ?_⟩
    have heq := hkept hterminal
    rw [heq] at hkept'
    exact hkept' hterminal
  spares_refl _ _ := ⟨fun _ _ _ h => h, fun _ _ _ h => h⟩
  spares_trans {w s t u} h _ hst htu := by
    refine ⟨fun batchId n hclaimed hunposted => ?_, fun batchId n hclaimed hactive => ?_⟩
    · exact htu.posts batchId n (h.log.subset hclaimed) (hst.posts batchId n hclaimed hunposted)
    · exact htu.active batchId n (h.log.subset hclaimed) (hst.active batchId n hclaimed hactive)

/-! ## What a transaction does -/

section Transactions

variable {db db' : OutboxDatabase} {batchId : ℕ} {claim : ClaimedDelivery}

/-- A transaction that replaces one row. -/
structure Replaces (db db' : OutboxDatabase) (batchId : ℕ) (row row' : BatchRow) : Prop where
  before : db.batches batchId = some row
  after : db'.batches = Function.update db.batches batchId (some row')
  coverage : db'.coverage = db.coverage

/-- An attempt was active and has the given outcome now. -/
def Finishes (db db' : OutboxDatabase) (claim : ClaimedDelivery) (outcome : AttemptOutcome) : Prop :=
  ∃ row row', Replaces db db' claim.batchId row row' ∧ row.status = .sending ∧
    row.attempts = claim.attemptNo ∧ row'.attempts = row.attempts ∧ row'.status = outcome.status

theorem Finishes.number {outcome : AttemptOutcome} {row : BatchRow} (h : Finishes db db' claim outcome)
    (hrow : db.batches claim.batchId = some row) : row.attempts = claim.attemptNo := by
  obtain ⟨row₀, _, hreplaces, -, hnumber, -⟩ := h
  rw [hreplaces.before] at hrow
  cases hrow
  exact hnumber

theorem finishAttempt_ok {updatedAt startedAt finishedAt : ℤ} {outcome : AttemptOutcome}
    {errorClass providerMessageId : Option String} {retryAt : Option ℤ} {u : Unit}
    (h : finishAttempt db updatedAt claim startedAt finishedAt outcome errorClass providerMessageId retryAt =
      .ok (db', u)) : Finishes db db' claim outcome := by
  simp only [finishAttempt, ok_of_bind, ensure_eq_ok, context_eq_ok, ok_of_pure, Prod.mk.injEq] at h
  obtain ⟨-, -, row, hrow, -, ⟨hstatus, hattempts⟩, -, -, rfl, -⟩ := h
  exact ⟨row, _, ⟨hrow, rfl, rfl⟩, hstatus, hattempts, rfl, rfl⟩

theorem recordSent_ok {updatedAt startedAt finishedAt : ℤ} {providerMessageId : String} {u : Unit}
    (h : recordSent db updatedAt claim startedAt finishedAt providerMessageId = .ok (db', u)) :
    Finishes db db' claim .sent := by
  simp only [recordSent, ok_of_bind] at h
  obtain ⟨-, -, -, -, h⟩ := h
  exact finishAttempt_ok h

theorem recordTransientFailure_ok {updatedAt startedAt finishedAt retryAt : ℤ} {errorClass : DeliveryErrorClass}
    {u : Unit} (h : recordTransientFailure db updatedAt claim startedAt finishedAt errorClass retryAt =
      .ok (db', u)) : Finishes db db' claim .permanent ∨ Finishes db db' claim .transient := by
  simp only [recordTransientFailure, ok_of_bind] at h
  obtain ⟨text, -, -, -, h⟩ := h
  split_ifs at h
  · exact .inl (finishAttempt_ok h)
  · simp only [ok_of_bind] at h
    obtain ⟨-, -, h⟩ := h
    exact .inr (finishAttempt_ok h)

theorem recordPermanentFailure_ok {updatedAt startedAt finishedAt : ℤ} {errorClass : DeliveryErrorClass} {u : Unit}
    (h : recordPermanentFailure db updatedAt claim startedAt finishedAt errorClass = .ok (db', u)) :
    Finishes db db' claim .permanent := by
  simp only [recordPermanentFailure, ok_of_bind] at h
  obtain ⟨-, -, text, -, h⟩ := h
  exact finishAttempt_ok h

theorem recordExhaustedFailure_ok {updatedAt startedAt finishedAt : ℤ} {errorClass : DeliveryErrorClass} {u : Unit}
    (h : recordExhaustedFailure db updatedAt claim startedAt finishedAt errorClass = .ok (db', u)) :
    Finishes db db' claim .permanent := by
  simp only [recordExhaustedFailure, ok_of_bind] at h
  obtain ⟨-, -, text, -, h⟩ := h
  exact finishAttempt_ok h

theorem claimReady_ok {now : ℤ} {selected : Option ℕ} {answer : Option ClaimedDelivery}
    (h : claimReady db now selected = .ok (db', answer)) :
    (answer = none ∧ db' = db ∧ selected = none) ∨ ∃ claim row row', answer = some claim ∧
      selected = some claim.batchId ∧ Replaces db db' claim.batchId row row' ∧ row.status = .ready ∧
      row.attempts < maxDeliveryAttempts ∧ row'.attempts = row.attempts + 1 ∧
      row'.status = .sending ∧ claim.attemptNo = row.attempts + 1 := by
  cases selected with
  | none =>
    cases h
    exact .inl ⟨rfl, rfl, rfl⟩
  | some batchId =>
    simp only [claimReady, ok_of_bind, ensure_eq_ok, context_eq_ok, ok_of_pure, Prod.mk.injEq] at h
    obtain ⟨row, hrow, -, hready, artifact, -, deadlineAt, -, rfl, rfl⟩ := h
    simp only [isReadyBatch, Bool.and_eq_true, decide_eq_true_eq] at hready
    exact .inr ⟨_, row, _, rfl, rfl, ⟨hrow, rfl, rfl⟩, hready.1.1.1, hready.1.1.2, rfl, rfl, rfl⟩

theorem startGeneration_ok {u : Unit} (h : startGeneration db batchId = .ok (db', u)) :
    ∃ row row', Replaces db db' batchId row row' ∧ row.status = .planned ∧
      row'.attempts = row.attempts ∧ row'.status = .generating := by
  simp only [startGeneration, ok_of_bind, ensure_eq_ok, context_eq_ok, ok_of_pure, Prod.mk.injEq] at h
  obtain ⟨row, hrow, -, hstatus, rfl, -⟩ := h
  exact ⟨row, _, ⟨hrow, rfl, rfl⟩, hstatus, rfl, rfl⟩

theorem markReady_ok {parse : DateParser} {artifact : ArtifactIdentity} {u : Unit}
    (h : markReady parse db batchId artifact = .ok (db', u)) :
    db' = db ∨ ∃ row row', Replaces db db' batchId row row' ∧ row.status = .generating ∧
      row'.attempts = row.attempts ∧ row'.status = .ready := by
  simp only [markReady, ok_of_bind, context_eq_ok] at h
  obtain ⟨-, -, row, hrow, h⟩ := h
  split_ifs at h with hstatus
  · simp only [ok_of_pure, Prod.mk.injEq] at h
    obtain ⟨rfl, -⟩ := h
    exact .inr ⟨row, _, ⟨hrow, rfl, rfl⟩, hstatus, rfl, rfl⟩
  · simp only [ok_of_bind, ok_of_pure, Prod.mk.injEq] at h
    obtain ⟨-, -, rfl, -⟩ := h
    exact .inl rfl

theorem reconcileSending_ok {attemptNo reportVersion : ℕ} {recipientId : String} {reconciledAt : ℤ}
    {decision : ReconciliationDecision} {outcome : ReconciliationOutcome}
    (h : reconcileSending db batchId attemptNo recipientId reportVersion reconciledAt decision =
      .ok (db', outcome)) :
    db' = db ∨ ∃ row row', Replaces db db' batchId row row' ∧ row.status = .sending ∧
      row.attempts = attemptNo ∧ row'.attempts = row.attempts ∧ row'.status = decision.status := by
  simp only [reconcileSending, ok_of_bind, context_eq_ok] at h
  obtain ⟨-, -, -, -, -, -, -, -, row, hrow, -, -, h⟩ := h
  split at h
  · simp only [ok_of_bind, ok_of_pure, Prod.mk.injEq] at h
    obtain ⟨-, -, rfl, -⟩ := h
    exact .inl rfl
  · simp only [ok_of_bind, ensure_eq_ok, ok_of_pure, Prod.mk.injEq] at h
    obtain ⟨-, ⟨hstatus, hattempts⟩, rfl, -⟩ := h
    exact .inr ⟨row, _, ⟨hrow, rfl, rfl⟩, hstatus, hattempts, rfl, rfl⟩

theorem insertCoverage_ok {deadlineAt : ℤ} {keys : List ReportKey}
    (h : keys.foldlM (insertCoverage batchId deadlineAt) db = .ok db') :
    db'.batches = db.batches ∧ ((db.coverage.map CoverageRow.key).Nodup →
      (db'.coverage.map CoverageRow.key).Nodup) := by
  refine foldlM_invariant (P := fun _ db' => db'.batches = db.batches ∧
    ((db.coverage.map CoverageRow.key).Nodup → (db'.coverage.map CoverageRow.key).Nodup))
    ⟨rfl, id⟩ (fun _ db₁ key db₂ hP hstep => ?_) h
  simp only [insertCoverage, ok_of_bind, ensure_eq_ok, ok_of_pure] at hstep
  obtain ⟨-, hfresh, rfl⟩ := hstep
  refine ⟨hP.1, fun hnodup => ?_⟩
  rw [List.map_append, List.nodup_append]
  refine ⟨hP.2 hnodup, List.nodup_singleton _, ?_⟩
  rintro key' hmem _ hkey rfl
  rw [List.map_singleton, List.mem_singleton] at hkey
  have heq : key' = key := hkey
  exact hfresh (heq ▸ hmem)

theorem createPlanned_ok {nextId : ℕ} {delivery : PendingDelivery} {outcome : CreateOutcome}
    (h : createPlanned db nextId delivery = .ok (db', outcome)) :
    db' = db ∨ ∃ row, db.batches nextId = none ∧
      db'.batches = Function.update db.batches nextId (some row) ∧ row.status = .planned ∧
      row.attempts = 0 ∧ ((db.coverage.map CoverageRow.key).Nodup →
        (db'.coverage.map CoverageRow.key).Nodup) := by
  have hinserted : ∀ first record, insertPlanned db nextId first record = .ok (db', outcome) →
      ∃ row, db.batches nextId = none ∧
        db'.batches = Function.update db.batches nextId (some row) ∧ row.status = .planned ∧
        row.attempts = 0 ∧ ((db.coverage.map CoverageRow.key).Nodup →
          (db'.coverage.map CoverageRow.key).Nodup) := by
    intro first record hinsert
    simp only [insertPlanned, ok_of_bind, ensure_eq_ok, ok_of_pure, Prod.mk.injEq] at hinsert
    obtain ⟨deadlineAt, -, -, hnone, db₁, hfold, rfl, -⟩ := hinsert
    obtain ⟨hbatches, hkeys⟩ := insertCoverage_ok hfold
    exact ⟨_, hnone, hbatches, rfl, rfl, hkeys⟩
  simp only [createPlanned, ok_of_bind] at h
  obtain ⟨record, -, first, -, -, -, h⟩ := h
  split at h
  · exact .inr (hinserted first record h)
  · split_ifs at h
    · simp only [ok_of_pure, Prod.mk.injEq] at h
      exact .inl h.1.symm
    · simp only [ok_of_bind] at h
      obtain ⟨-, -, h⟩ := h
      exact .inr (hinserted first record h)

end Transactions

/-! ## One replaced row -/

section Moves

variable {s : MailWorld W} {w : W} {db : OutboxDatabase} {batchId n : ℕ} {row row' : BatchRow}

theorem MailJustified.number {before : List (MailEvent W)} {e : MailEvent W} (h : MailJustified before e)
    (he : e.isClaimed batchId) : e.attemptNo = before.countP (MailEvent.isClaimed batchId) + 1 := by
  cases e with
  | claimed w' batchId' n' =>
    simp only [MailEvent.isClaimed, beq_iff_eq] at he
    subst he
    exact h.1
  | _ => cases he

theorem OutboxInv.claimed_unique (hs : OutboxInv s) {w' : W} (h : .claimed w batchId n ∈ s.log)
    (h' : .claimed w' batchId n ∈ s.log) : w = w' := by
  have heq := hs.orderly.number_inj (f := MailEvent.attemptNo) (fun _ _ he hp => he.number hp) h h'
    (show MailEvent.isClaimed batchId _ by simp [MailEvent.isClaimed]) (by simp [MailEvent.isClaimed]) rfl
  cases heq
  rfl

theorem OutboxInv.claimed_number (hs : OutboxInv s) (h : .claimed w batchId n ∈ s.log) :
    1 ≤ n ∧ n ≤ s.log.countP (MailEvent.isClaimed batchId) :=
  hs.orderly.number_le (f := MailEvent.attemptNo) (fun _ _ he hp => he.number hp) h
    (by simp [MailEvent.isClaimed])

theorem OutboxInv.claimed_of_posted (hs : OutboxInv s) (h : .posted w batchId n ∈ s.log) :
    .claimed w batchId n ∈ s.log := by
  obtain ⟨before, after, hlog⟩ := List.append_of_mem h
  rw [hlog]
  exact List.mem_append_left _ (hs.orderly before _ after hlog).1

/-- An attempt that keeps its number: the row may become ready again only when every request of its
batch was refused. -/
theorem Replaces.inv (h : Replaces s.db db batchId row row') (hs : OutboxInv s)
    (hattempts : row'.attempts = row.attempts)
    (hunclaimed : row'.status = .planned ∨ row'.status = .generating → row'.attempts = 0)
    (hready : row'.status = .ready →
      ∀ w n, .posted w batchId n ∈ s.log → .refused batchId n ∈ s.log) : OutboxInv (s.commit db) := by
  have hrow := hs.rows batchId row h.before
  refine ⟨hs.orderly, fun batchId' row'' hrow' => ?_, fun batchId' hnone => ?_, ?_⟩
  · rw [MailWorld.commit_db, h.after, Function.update_apply] at hrow'
    split_ifs at hrow' with heq
    · subst heq
      cases hrow'
      refine ⟨hattempts.trans hrow.counted, hunclaimed, fun w' m hposted => ?_⟩
      by_cases hstatus : row'.status = .ready
      · exact .inl (hready hstatus w' m hposted)
      · rw [hattempts]
        exact (hrow.settled w' m hposted).imp_right fun hm => ⟨hm.1, hstatus⟩
    · exact hs.rows batchId' row'' hrow'
  · rw [MailWorld.commit_db, h.after, Function.update_apply] at hnone
    split_ifs at hnone
    exact hs.absent batchId' hnone
  · rw [MailWorld.commit_db, h.coverage]
    exact hs.covered

theorem Replaces.evolves (h : Replaces s.db db batchId row row') {log : List (MailEvent W)}
    (hlog : s.log <+: log) (hopen : row.status ≠ .sent ∧ row.status ≠ .permanentFailure) :
    OutboxEvolves s ⟨db, log⟩ := by
  refine ⟨hlog, fun batchId' row'' hrow => ?_⟩
  rw [h.after, Function.update_apply]
  split_ifs with heq
  · subst heq
    rw [h.before] at hrow
    cases hrow
    refine ⟨row', rfl, fun hterminal => ?_⟩
    rcases hterminal with hsent | hfailed
    · exact absurd hsent hopen.1
    · exact absurd hfailed hopen.2
  · exact ⟨row'', hrow, fun _ => rfl⟩

theorem Replaces.spares (h : Replaces s.db db batchId row row')
    (hattempts : row'.attempts = row.attempts)
    (hkept : row'.status = .ready → row.status = .ready ∨ .claimed w batchId row.attempts ∉ s.log) :
    OutboxSpares w s (s.commit db) := by
  refine ⟨fun _ _ _ hunposted => hunposted, fun batchId' n hclaimed hactive => ?_⟩
  obtain ⟨row₀, hrow₀, hn, hstatus⟩ := hactive
  unfold Active
  rw [MailWorld.commit_db, h.after, Function.update_apply]
  split_ifs with heq
  · subst heq
    rw [h.before] at hrow₀
    cases hrow₀
    refine ⟨row', rfl, hattempts.trans hn, fun hready => ?_⟩
    rcases hkept hready with hready | hunclaimed
    · exact hstatus hready
    · exact hunclaimed (hn ▸ hclaimed)
  · exact ⟨row₀, hrow₀, hn, hstatus⟩

/-- An attempt ends for its own worker; it may be retried when its request was refused or never
left. -/
theorem Finishes.allowed {claim : ClaimedDelivery} {outcome : AttemptOutcome}
    (h : Finishes s.db db claim outcome) (hs : OutboxInv s)
    (hclaimed : .claimed w claim.batchId claim.attemptNo ∈ s.log)
    (hretry : outcome = .transient → (∀ w', .posted w' claim.batchId claim.attemptNo ∉ s.log) ∨
      .refused claim.batchId claim.attemptNo ∈ s.log) :
    (outboxShared W).Allowed w s (s.commit db) := by
  obtain ⟨row, row', hreplaces, hsending, hnumber, hattempts, hstatus⟩ := h
  refine ⟨hreplaces.inv hs hattempts (fun hearly => ?_) fun hready w' m hposted => ?_,
    hreplaces.evolves List.prefix_rfl (by simp [hsending]),
    fun w' hne => hreplaces.spares hattempts fun _ => ?_⟩
  · rw [hstatus] at hearly
    cases outcome <;> simp [AttemptOutcome.status] at hearly
  · have htransient : outcome = .transient := by
      rw [hstatus] at hready
      cases outcome <;> simp_all [AttemptOutcome.status]
    rcases (hs.rows _ row hreplaces.before).settled w' m hposted with hrefused | ⟨rfl, -⟩
    · exact hrefused
    · rw [hnumber] at hposted ⊢
      rcases hretry htransient with hunposted | hrefused
      · exact absurd hposted (hunposted w')
      · exact hrefused
  · refine .inr fun hclaimed' => hne ?_
    rw [hnumber] at hclaimed'
    exact hs.claimed_unique hclaimed' hclaimed

theorem RowInv.append {log : List (MailEvent W)} {e : MailEvent W} (h : RowInv log batchId row)
    (hclaim : e.isClaimed batchId = false)
    (hpost : ∀ w n, e = .posted w batchId n → n = row.attempts ∧ row.status ≠ .ready) :
    RowInv (log ++ [e]) batchId row := by
  refine ⟨?_, h.unclaimed, fun w' m hposted => ?_⟩
  · rw [h.counted, List.countP_append, List.countP_singleton, hclaim]
    rfl
  · rw [List.mem_append, List.mem_singleton] at hposted
    rcases hposted with hposted | heq
    · exact (h.settled w' m hposted).imp_left (List.mem_append_left _)
    · exact .inr (hpost w' m heq.symm)

theorem OutboxInv.record (hs : OutboxInv s) {e : MailEvent W} (he : MailJustified s.log e)
    (hclaim : ∀ batchId, e.isClaimed batchId = false)
    (hpost : ∀ w batchId n row, e = .posted w batchId n → s.db.batches batchId = some row →
      n = row.attempts ∧ row.status ≠ .ready) : OutboxInv (s.record e) := by
  refine ⟨hs.orderly.snoc he, fun batchId row hrow => ?_, fun batchId hnone w' m hclaimed => ?_,
    hs.covered⟩
  · exact (hs.rows batchId row hrow).append (hclaim batchId) fun w' m heq => hpost w' batchId m row heq hrow
  · rw [MailWorld.record_log, List.mem_append, List.mem_singleton] at hclaimed
    rcases hclaimed with hclaimed | rfl
    · exact hs.absent batchId hnone w' m hclaimed
    · have := hclaim batchId
      simp [MailEvent.isClaimed] at this

theorem post_allowed (hs : OutboxInv s) (hclaimed : .claimed w batchId n ∈ s.log)
    (hactive : Active s batchId n) (hunposted : ∀ w', .posted w' batchId n ∉ s.log) :
    (outboxShared W).Allowed w s (s.record (.posted w batchId n)) := by
  obtain ⟨row, hrow, hnumber, hstatus⟩ := hactive
  refine ⟨hs.record ⟨hclaimed, hunposted⟩ (fun _ => rfl) fun w' batchId' m row' heq hrow' => ?_,
    ⟨List.prefix_append _ _, fun _ row hrow => ⟨row, hrow, fun _ => rfl⟩⟩,
    fun w' hne => ⟨?_, fun _ _ _ h => h⟩⟩
  · cases heq
    rw [hrow] at hrow'
    cases hrow'
    exact ⟨hnumber.symm, hstatus⟩
  · intro batchId' m hclaimed' hunposted' w'' hposted
    rw [MailWorld.record_log, List.mem_append, List.mem_singleton] at hposted
    rcases hposted with hposted | heq
    · exact hunposted' w'' hposted
    · cases heq
      exact hne (hs.claimed_unique hclaimed' hclaimed)

theorem refused_allowed (hs : OutboxInv s) :
    (outboxShared W).Allowed w s (s.record (.refused batchId n)) := by
  refine ⟨hs.record trivial (fun _ => rfl) fun _ _ _ _ heq => (nomatch heq),
    ⟨List.prefix_append _ _, fun _ row hrow => ⟨row, hrow, fun _ => rfl⟩⟩,
    fun w' _ => ⟨?_, fun _ _ _ h => h⟩⟩
  intro batchId' m _ hunposted w'' hposted
  simp only [MailWorld.record_log, List.mem_append, List.mem_singleton, reduceCtorEq, or_false] at hposted
  exact hunposted w'' hposted

/-- A claim starts the next attempt of a batch whose requests were all refused. -/
theorem claim_allowed (h : Replaces s.db db batchId row row') (hs : OutboxInv s)
    (hready : row.status = .ready) (hlimit : row.attempts < maxDeliveryAttempts)
    (hattempts : row'.attempts = row.attempts + 1) (hsending : row'.status = .sending) :
    (outboxShared W).Allowed w s ((s.commit db).record (.claimed w batchId (row.attempts + 1))) := by
  have hrow := hs.rows batchId row h.before
  have hrefused : ∀ w' m, .posted w' batchId m ∈ s.log → .refused batchId m ∈ s.log := by
    intro w' m hposted
    rcases hrow.settled w' m hposted with hrefused | ⟨-, hstatus⟩
    · exact hrefused
    · exact absurd hready hstatus
  refine ⟨⟨hs.orderly.snoc ⟨?_, by omega, hrefused⟩, fun batchId' row'' hrow' => ?_,
    fun batchId' hnone w' m hclaimed => ?_, ?_⟩,
    h.evolves (List.prefix_append _ _) (by simp [hready]), ?_⟩
  · rw [hrow.counted]
  · rw [MailWorld.record_db, MailWorld.commit_db, h.after, Function.update_apply] at hrow'
    split_ifs at hrow' with heq
    · subst heq
      cases hrow'
      refine ⟨?_, by simp [hsending], fun w' m hposted => ?_⟩
      · rw [hattempts, hrow.counted, MailWorld.record_log, List.countP_append, List.countP_singleton]
        simp [MailEvent.isClaimed]
      · simp only [MailWorld.record_log, MailWorld.commit_log, List.mem_append, List.mem_singleton,
          reduceCtorEq, or_false] at hposted ⊢
        exact .inl (hrefused w' m hposted)
    · refine (hs.rows batchId' row'' hrow').append ?_ fun _ _ heq => (nomatch heq)
      simpa [MailEvent.isClaimed] using Ne.symm heq
  · rw [MailWorld.record_db, MailWorld.commit_db, h.after, Function.update_apply] at hnone
    split_ifs at hnone with heq
    simp only [MailWorld.record_log, MailWorld.commit_log, List.mem_append, List.mem_singleton,
      MailEvent.claimed.injEq] at hclaimed
    rcases hclaimed with hclaimed | ⟨-, hbatch, -⟩
    · exact hs.absent batchId' hnone w' m hclaimed
    · exact heq hbatch
  · rw [MailWorld.record_db, MailWorld.commit_db, h.coverage]
    exact hs.covered
  · refine fun w' _ => ⟨fun batchId' m _ hunposted w'' hposted => ?_, fun batchId' m _ hactive => ?_⟩
    · simp only [MailWorld.record_log, MailWorld.commit_log, List.mem_append, List.mem_singleton,
        reduceCtorEq, or_false] at hposted
      exact hunposted w'' hposted
    · obtain ⟨row₀, hrow₀, hn, hstatus⟩ := hactive
      refine ⟨row₀, ?_, hn, hstatus⟩
      rw [MailWorld.record_db, MailWorld.commit_db, h.after, Function.update_of_ne ?_]
      · exact hrow₀
      · rintro rfl
        rw [h.before] at hrow₀
        cases hrow₀
        exact hstatus hready

end Moves

/-! ## The mail worker -/

section Programs

variable {s t : MailWorld W} {w : W} {claim : ClaimedDelivery}

/-- The attempt of a claim is open and its request has not left. -/
structure Held (w : W) (s : MailWorld W) (claim : ClaimedDelivery) : Prop where
  claimed : .claimed w claim.batchId claim.attemptNo ∈ s.log
  active : Active s claim.batchId claim.attemptNo
  unposted : ∀ w', .posted w' claim.batchId claim.attemptNo ∉ s.log

theorem Held.mono (h : Held w s claim) (hst : (outboxShared W).rely w s t) : Held w t claim :=
  ⟨hst.1.log.subset h.claimed, hst.2.active _ _ h.claimed h.active,
    hst.2.posts _ _ h.claimed h.unposted⟩

/-- A definite failure of a claim: its request never left or was refused. -/
structure Concluded (w : W) (s : MailWorld W) (claim : ClaimedDelivery)
    (result : Except GmailDeliveryError String) : Prop where
  claimed : .claimed w claim.batchId claim.attemptNo ∈ s.log
  failed : ∀ error, result = .error error → error ≠ .ambiguous →
    (∀ w', .posted w' claim.batchId claim.attemptNo ∉ s.log) ∨
      .refused claim.batchId claim.attemptNo ∈ s.log

theorem Concluded.mono {result : Except GmailDeliveryError String} (h : Concluded w s claim result)
    (hst : (outboxShared W).rely w s t) : Concluded w t claim result :=
  ⟨hst.1.log.subset h.claimed, fun error herror hne =>
    (h.failed error herror hne).imp (hst.2.posts _ _ h.claimed) (hst.1.log.subset ·)⟩

theorem Held.concluded (h : Held w s claim) {result : Except GmailDeliveryError String} :
    Concluded w s claim result := ⟨h.claimed, fun _ _ _ => .inl h.unposted⟩

theorem completion_allowed {op : ℤ → Except PostgresOutboxError (OutboxDatabase × Unit)}
    {answer : Except PostgresOutboxError Unit} (hs : OutboxInv s) (h : Transaction op s.commit s answer t)
    (hop : ∀ updatedAt db u, op updatedAt = .ok (db, u) →
      (outboxShared W).Allowed w s (s.commit db)) :
    (outboxShared W).Allowed w s t :=
  h.elim (P := (outboxShared W).Allowed w s) (.refl w hs) hop

theorem completed_safe (answer : Except PostgresOutboxError Unit) {outcome : DeliveryTickOutcome} :
    Safe (outboxShared W) w (do completed answer; return outcome) s := by
  cases answer <;> exact fun _ _ _ => trivial

theorem recordKnownFailure_safe {startedAt finishedAt : ℤ} {error : GmailDeliveryError}
    (h : Concluded w s claim (.error error)) (hne : error ≠ .ambiguous) :
    Safe (outboxShared W) w (recordKnownFailure claim startedAt finishedAt error) s := by
  unfold recordKnownFailure
  split
  · intro t hst ht answer u hanswer
    refine ⟨completion_allowed ht hanswer fun _ db _ hop => ?_, completed_safe _⟩
    exact (recordPermanentFailure_ok hop).allowed ht (h.mono hst).claimed (by simp)
  · refine safe_ofExcept_bind fun errorClass _ => ?_
    dsimp only
    split_ifs
    · intro t hst ht answer u hanswer
      refine ⟨completion_allowed ht hanswer fun _ db _ hop => ?_, completed_safe _⟩
      have hconcluded := h.mono hst
      rcases recordTransientFailure_ok hop with hpermanent | htransient
      · exact hpermanent.allowed ht hconcluded.claimed (by simp)
      · exact htransient.allowed ht hconcluded.claimed fun _ => hconcluded.failed error rfl hne
    · intro t hst ht answer u hanswer
      refine ⟨completion_allowed ht hanswer fun _ db _ hop => ?_, completed_safe _⟩
      exact (recordExhaustedFailure_ok hop).allowed ht (h.mono hst).claimed (by simp)

theorem recordResult_safe {startedAt : ℤ} {result : Except GmailDeliveryError String}
    (h : Concluded w s claim result) :
    Safe (outboxShared W) w (recordResult claim startedAt result) s := by
  intro t hst ht finishedAt u hu
  obtain rfl : u = t := hu
  refine ⟨.refl w ht, ?_⟩
  have hconcluded := h.mono hst
  match result with
  | .ok providerMessageId =>
    intro v huv hv answer x hanswer
    refine ⟨completion_allowed hv hanswer fun _ db _ hop => ?_, completed_safe _⟩
    exact (recordSent_ok hop).allowed hv (hconcluded.mono huv).claimed (by simp)
  | .error error =>
    by_cases hne : error = .ambiguous
    · subst hne
      exact fun _ _ _ => trivial
    · have hknown : Safe (outboxShared W) w (recordKnownFailure claim startedAt finishedAt error) u :=
        recordKnownFailure_safe hconcluded hne
      cases error with
      | ambiguous => exact absurd rfl hne
      | _ => exact hknown

theorem deliver_wp (h : Held w s claim) : wp (outboxShared W) w (deliver claim)
    (fun r t => ∀ result, r = .ok result → Concluded w t claim result) s := by
  intro t hst ht prepared u hu
  obtain rfl : u = t := hu
  have hheld := h.mono hst
  refine ⟨.refl w ht, ?_⟩
  match prepared with
  | .error error =>
    rintro v huv - result hresult
    cases hresult
    exact (hheld.mono huv).concluded
  | .ok _ =>
    rintro v huv hv - x rfl
    have hlast := hheld.mono huv
    refine ⟨post_allowed hv hlast.claimed hlast.active hlast.unposted, ?_⟩
    intro y hxy hy received z hz
    have hclaimed : .claimed w claim.batchId claim.attemptNo ∈ y.log :=
      hxy.1.log.subset (List.mem_append_left _ hlast.claimed)
    -- every answer but an accepted or an ambiguous one is a refusal
    have hreceived : (outboxShared W).Allowed w y z ∧
        Concluded w z claim (received.mapError mapSendError) := by
      match received, hz with
      | .ok messageId, hz =>
        cases hz
        exact ⟨.refl w hy, hclaimed, fun _ herror => (nomatch herror)⟩
      | .error .ambiguous, hz =>
        cases hz
        refine ⟨.refl w hy, hclaimed, fun error herror hne => ?_⟩
        cases herror
        exact absurd rfl hne
      | .error .invalidCredential, hz | .error .authentication, hz | .error .rateLimited, hz
      | .error .rejected, hz =>
        cases hz
        exact ⟨refused_allowed hy, List.mem_append_left _ hclaimed, fun _ _ _ => .inr (by simp)⟩
    refine ⟨hreceived.1, ?_⟩
    rintro z' hzz' - result hresult
    cases hresult
    exact hreceived.2.mono hzz'

theorem deliverAuthorized_wp {authorization : Except GmailDeliveryError Unit} (h : Held w s claim) :
    wp (outboxShared W) w (deliverAuthorized claim authorization)
      (fun r t => ∀ result, r = .ok result → Concluded w t claim result) s := by
  match authorization with
  | .ok _ => exact deliver_wp h
  | .error error =>
    rintro t hst - result hresult
    cases hresult
    exact (h.mono hst).concluded

theorem deliverClaimed_safe {startedAt : ℤ} {authorization : Except GmailDeliveryError Unit}
    (h : Held w s claim) : Safe (outboxShared W) w (deliverClaimed claim startedAt authorization) s := by
  intro t hst ht loaded u hu
  obtain rfl : u = t := hu
  have hheld := h.mono hst
  refine ⟨.refl w ht, ?_⟩
  match loaded with
  | .error _ =>
    intro v huv hv finishedAt x hx
    obtain rfl : x = v := hx
    refine ⟨.refl w hv, ?_⟩
    intro y hxy hy answer z hanswer
    refine ⟨completion_allowed hy hanswer fun _ db _ hop => ?_, completed_safe _⟩
    exact (recordPermanentFailure_ok hop).allowed hy ((hheld.mono huv).mono hxy).claimed (by simp)
  | .ok _ =>
    exact safe_bind (p := deliverAuthorized claim authorization) (deliverAuthorized_wp hheld)
      fun result v _ hconcluded => recordResult_safe hconcluded

theorem claimReady_allowed {now : ℤ} {answer : Except PostgresOutboxError (Option ClaimedDelivery)}
    (hs : OutboxInv s) (h : (outboxShared W).answers w s (.claim now) answer t) :
    (outboxShared W).Allowed w s t ∧ ∀ claim, answer = .ok (some claim) → Held w t claim := by
  obtain ⟨selected, h⟩ := h
  have hop : ∀ result answer, (claimReady s.db now selected).map (fun result => (result, result.2)) =
      .ok (result, answer) → (outboxShared W).Allowed w s (s.commitClaim w result) ∧
        ∀ claim, answer = some claim → Held w (s.commitClaim w result) claim := by
    intro result answer hmap
    obtain ⟨⟨db, found⟩, hclaim, hresult⟩ := ok_of_map.mp hmap
    cases hresult
    rcases claimReady_ok hclaim with ⟨rfl, rfl, -⟩ |
      ⟨claim, row, row', rfl, rfl, hreplaces, hready, hlimit, hattempts, hsending, hnumber⟩
    · exact ⟨.refl w hs, fun claim hsome => (nomatch hsome)⟩
    · have hallowed := claim_allowed (w := w) hreplaces hs hready hlimit hattempts hsending
      rw [← hnumber] at hallowed
      refine ⟨hallowed, fun claim' hsome => ?_⟩
      cases hsome
      refine ⟨by simp [MailWorld.commitClaim],
        ⟨row', by simp [MailWorld.commitClaim, hreplaces.after], by omega,
          by simp [hsending]⟩, fun w' hposted => ?_⟩
      simp only [MailWorld.commitClaim, MailWorld.record_log, MailWorld.commit_log, List.mem_append,
        List.mem_singleton, reduceCtorEq, or_false] at hposted
      have hnumber' := hs.claimed_number (hs.claimed_of_posted hposted)
      rw [hnumber, (hs.rows _ row hreplaces.before).counted] at hnumber'
      omega
  refine ⟨h.elim (P := (outboxShared W).Allowed w s) (.refl w hs) fun _ result answer hclaim =>
    (hop result answer hclaim).1, fun claim hanswer => ?_⟩
  subst hanswer
  obtain ⟨-, result, hclaim, rfl⟩ := h.ok
  exact (hop result _ hclaim).2 claim rfl

theorem deliverOne_safe : Safe (outboxShared W) w deliverOne s := by
  intro t hst ht startedAt u hu
  obtain rfl : u = t := hu
  refine ⟨.refl w ht, ?_⟩
  intro v huv hv ready x hx
  obtain rfl : x = v := hx.1
  refine ⟨.refl w hv, ?_⟩
  refine safe_ofExcept_bind fun ready _ => ?_
  split_ifs
  · intro y hxy hy authorization z hz
    obtain rfl : z = y := hz
    refine ⟨.refl w hy, ?_⟩
    intro z' hzz' hz' answer x' hanswer
    obtain ⟨hallowed, hheld⟩ := claimReady_allowed hz' hanswer
    refine ⟨hallowed, ?_⟩
    rcases answer with error | _ | claim
    · exact fun _ _ _ => trivial
    · exact fun _ _ _ => trivial
    · exact deliverClaimed_safe (hheld claim rfl)
  · exact fun _ _ _ => trivial

theorem deliverUpTo_safe (attempts remaining : ℕ) :
    Safe (outboxShared W) w (deliverUpTo attempts remaining) s := by
  induction remaining generalizing attempts s with
  | zero => exact fun _ _ _ => trivial
  | succ remaining ih =>
    intro t hst ht stopped u hu
    obtain rfl : u = t := hu
    refine ⟨.refl w ht, ?_⟩
    cases stopped with
    | true => exact fun _ _ _ => trivial
    | false =>
      refine safe_seq (p := deliverOne) deliverOne_safe fun outcome v _ => ?_
      split_ifs
      · exact fun _ _ _ => trivial
      · exact ih _

end Programs

/-! ## Every run -/

section Runs

variable {parse : DateParser} {s t : MailWorld W}

theorem OutboxInv.insert (hs : OutboxInv s) {db : OutboxDatabase} {nextId : ℕ} {row : BatchRow}
    (hnew : s.db.batches nextId = none)
    (hbatches : db.batches = Function.update s.db.batches nextId (some row))
    (hattempts : row.attempts = 0) (hcovered : (db.coverage.map CoverageRow.key).Nodup) :
    OutboxInv (s.commit db) := by
  have hunclaimed := hs.absent nextId hnew
  refine ⟨hs.orderly, fun batchId row' hrow => ?_, fun batchId hnone => ?_, hcovered⟩
  · rw [MailWorld.commit_db, hbatches, Function.update_apply] at hrow
    split_ifs at hrow with heq
    · subst heq
      cases hrow
      refine ⟨?_, fun _ => hattempts, fun w n hposted => ?_⟩
      · rw [hattempts, eq_comm, List.countP_eq_zero]
        intro e he hclaim
        cases e with
        | claimed w batchId' n =>
          simp only [MailEvent.isClaimed, beq_iff_eq] at hclaim
          subst hclaim
          exact hunclaimed w n he
        | _ => cases hclaim
      · exact absurd (hs.claimed_of_posted hposted) (hunclaimed w n)
    · exact hs.rows batchId row' hrow
  · rw [MailWorld.commit_db, hbatches, Function.update_apply] at hnone
    split_ifs at hnone
    exact hs.absent batchId hnone

theorem OutboxInv.unmoved (hs : OutboxInv s) :
    OutboxInv s ∧ OutboxEvolves s s ∧ ∀ w, OutboxSpares w s s :=
  ⟨hs, (outboxShared W).evolves_refl s, fun w => (outboxShared W).spares_refl w s⟩

/-- A new batch leaves the stored ones alone. -/
theorem OutboxInv.planned {nextId : ℕ} {delivery : PendingDelivery} {db : OutboxDatabase}
    {outcome : CreateOutcome} (hs : OutboxInv s)
    (h : createPlanned s.db nextId delivery = .ok (db, outcome)) :
    OutboxInv (s.commit db) ∧ OutboxEvolves s (s.commit db) ∧
      ∀ w, OutboxSpares w s (s.commit db) := by
  rcases createPlanned_ok h with rfl | ⟨row, hnew, hbatches, -, hattempts, hcovered⟩
  · exact hs.unmoved
  · have hkept : ∀ batchId row', s.db.batches batchId = some row' →
        db.batches batchId = some row' := by
      intro batchId row' hrow
      rw [hbatches, Function.update_of_ne ?_]
      · exact hrow
      · rintro rfl
        rw [hnew] at hrow
        cases hrow
    refine ⟨hs.insert hnew hbatches hattempts (hcovered hs.covered),
      ⟨List.prefix_rfl, fun batchId row' hrow => ⟨row', hkept batchId row' hrow, fun _ => rfl⟩⟩,
      fun w => ⟨fun _ _ _ h => h, fun batchId n _ hactive => ?_⟩⟩
    obtain ⟨row', hrow, hrest⟩ := hactive
    exact ⟨row', hkept batchId row' hrow, hrest⟩

/-- A published batch was never claimed. -/
theorem OutboxInv.published {batchId : ℕ} {artifact : ArtifactIdentity} {db : OutboxDatabase}
    (hs : OutboxInv s) (h : markReady parse s.db batchId artifact = .ok (db, ())) :
    OutboxInv (s.commit db) ∧ OutboxEvolves s (s.commit db) ∧
      ∀ w, OutboxSpares w s (s.commit db) := by
  rcases markReady_ok h with rfl | ⟨row, row', hreplaces, hgenerating, hattempts, hready⟩
  · exact hs.unmoved
  · have hrow := hs.rows _ row hreplaces.before
    have hunclaimed : ∀ w n, .claimed w batchId n ∉ s.log := by
      intro w n hclaimed
      have hnumber := hs.claimed_number hclaimed
      rw [← hrow.counted, hrow.unclaimed (.inr hgenerating)] at hnumber
      omega
    refine ⟨hreplaces.inv hs hattempts (by simp [hready]) (fun _ w n hposted => ?_),
      hreplaces.evolves List.prefix_rfl (by simp [hgenerating]),
      fun w => hreplaces.spares hattempts fun _ => ?_⟩
    · exact absurd (hs.claimed_of_posted hposted) (hunclaimed w n)
    · exact .inr (hunclaimed w _)

/-- **Planning, generation and the operator keep the invariant.** -/
theorem MailEnvironment.sound (h : MailEnvironment parse s t) (hs : OutboxInv s) :
    OutboxInv t ∧ OutboxEvolves s t ∧ ∀ w, OutboxSpares w s t := by
  cases h with
  | plan h => exact hs.planned h
  | generate h =>
    obtain ⟨row, row', hreplaces, hplanned, hattempts, hgenerating⟩ := startGeneration_ok h
    refine ⟨hreplaces.inv hs hattempts (fun _ => ?_) (by simp [hgenerating]),
      hreplaces.evolves List.prefix_rfl (by simp [hplanned]),
      fun w => hreplaces.spares hattempts (by simp [hgenerating])⟩
    rw [hattempts]
    exact (hs.rows _ row hreplaces.before).unclaimed (.inl hplanned)
  | publish h => exact hs.published h
  | reconcile h =>
    rcases reconcileSending_ok h with rfl | ⟨row, row', hreplaces, hsending, -, hattempts, hstatus⟩
    · exact hs.unmoved
    · rename_i decision _ _
      have hfinal : row'.status = .sent ∨ row'.status = .permanentFailure := by
        rw [hstatus]
        cases decision <;> simp [ReconciliationDecision.status]
      have hnotReady : row'.status ≠ .ready := by rcases hfinal with h | h <;> simp [h]
      refine ⟨hreplaces.inv hs hattempts (fun hearly => ?_) fun hready => absurd hready hnotReady,
        hreplaces.evolves List.prefix_rfl (by simp [hsending]),
        fun w => hreplaces.spares hattempts fun hready => absurd hready hnotReady⟩
      rcases hfinal with h | h <;> simp [h] at hearly

variable [DecidableEq W]

/-- Any number of workers on one outbox. -/
abbrev MailPool (W : Type) : Type :=
  Pool (MailWorld W) W MailCall MailCall.Answer GmailOutboxError DeliveryPassOutcome

/-- The system of mail workers over one outbox that starts empty. -/
def mailSystem (W : Type) [DecidableEq W] (parse : DateParser) : Transition.System (MailPool W) :=
  Pool.system (outboxShared W) (MailEnvironment parse) (fun program => program = deliverReady)
    fun s => (∀ batchId, s.db.batches batchId = none) ∧ s.db.coverage = [] ∧ s.log = []

omit [DecidableEq W] in
theorem mail_sound : Pool.Sound (outboxShared W) (MailEnvironment parse)
    (fun program => program = deliverReady) where
  acts _ _ hs h := h.sound hs
  starts program hprogram w s _ := by
    subst hprogram
    exact deliverUpTo_safe 0 maxDeliveriesPerPass

theorem mail_ok {P : MailPool W} (h : Transition.Reachable (mailSystem W parse) P) :
    Pool.Ok (outboxShared W) P := by
  refine Pool.safe mail_sound (fun s hs => ?_) h
  obtain ⟨hbatches, hcoverage, hlog⟩ := hs
  refine ⟨?_, by simp [hbatches], by simp [hlog], by simp [hcoverage]⟩
  rw [hlog]
  exact orderly_nil

omit [DecidableEq W] in
/-- Requests that were not refused are those of the last attempt. -/
theorem OutboxInv.inconclusive_le_one [DecidableEq W] (hs : OutboxInv s) (batchId : ℕ) :
    s.log.countP (MailEvent.isInconclusive s.log batchId) ≤ 1 := by
  let last : MailEvent W → Bool := fun e => match e with
    | .posted _ batchId' n => batchId' == batchId && some n == (s.db.batches batchId).map BatchRow.attempts
    | _ => false
  refine (List.countP_mono_left fun e he hinconclusive => ?_).trans
    (hs.orderly.countP_le_one (p := last) fun before e he hlast e' he' hlast' => ?_)
  · cases e with
    | posted w batchId' n =>
      simp only [MailEvent.isInconclusive, Bool.and_eq_true, beq_iff_eq, Bool.not_eq_true',
        List.contains_eq_mem, decide_eq_false_iff_not] at hinconclusive
      obtain ⟨rfl, hunrefused⟩ := hinconclusive
      cases hrow : s.db.batches batchId' with
      | none => exact absurd (hs.claimed_of_posted he) (hs.absent batchId' hrow w n)
      | some row =>
        rcases (hs.rows batchId' row hrow).settled w n he with hrefused | ⟨rfl, -⟩
        · exact absurd hrefused hunrefused
        · simp [last, hrow]
    | _ => cases hinconclusive
  · cases e with
    | posted w batchId' n =>
      cases e' with
      | posted w' batchId'' n' =>
        simp only [last, Bool.and_eq_true, beq_iff_eq] at hlast hlast'
        obtain ⟨rfl, hnumber⟩ := hlast
        obtain ⟨rfl, hnumber'⟩ := hlast'
        rw [← hnumber', Option.some.injEq] at hnumber
        subst hnumber
        exact he.2 w' he'
      | _ => cases hlast'
    | _ => cases hlast

omit [DecidableEq W] in
/-- A completion with another number than the active attempt has no effect. -/
theorem superseded_eq {w : W} {c : MailCall} {claim : ClaimedDelivery} {row : BatchRow} {answer : c.Answer}
    (hc : c.completes = some claim) (hrow : s.db.batches claim.batchId = some row)
    (hne : row.attempts ≠ claim.attemptNo) (h : mailAnswers w s c answer t) : t = s := by
  have hfinish : ∀ {db outcome}, ¬ Finishes s.db db claim outcome := fun h => hne (h.number hrow)
  cases c with
  | sent claim' startedAt finishedAt providerMessageId =>
    cases hc
    exact h.elim (P := (· = s)) rfl fun _ db _ hop => absurd (recordSent_ok hop) hfinish
  | transient claim' startedAt finishedAt errorClass retryAt =>
    cases hc
    refine h.elim (P := (· = s)) rfl fun _ db _ hop => ?_
    rcases recordTransientFailure_ok hop with hpermanent | htransient
    · exact absurd hpermanent hfinish
    · exact absurd htransient hfinish
  | exhausted claim' startedAt finishedAt errorClass =>
    cases hc
    exact h.elim (P := (· = s)) rfl fun _ db _ hop => absurd (recordExhaustedFailure_ok hop) hfinish
  | permanent claim' startedAt finishedAt errorClass =>
    cases hc
    exact h.elim (P := (· = s)) rfl fun _ db _ hop => absurd (recordPermanentFailure_ok hop) hfinish
  | _ => cases hc

theorem reconcileSending_superseded {db db' : OutboxDatabase} {batchId attemptNo reportVersion : ℕ}
    {recipientId : String} {reconciledAt : ℤ} {decision : ReconciliationDecision}
    {outcome : ReconciliationOutcome} {row : BatchRow} (hrow : db.batches batchId = some row)
    (hne : row.attempts ≠ attemptNo)
    (h : reconcileSending db batchId attemptNo recipientId reportVersion reconciledAt decision =
      .ok (db', outcome)) : db' = db := by
  rcases reconcileSending_ok h with heq | ⟨row₀, _, hreplaces, -, hnumber, -⟩
  · exact heq
  · rw [hreplaces.before] at hrow
    cases hrow
    exact absurd hnumber hne

omit [DecidableEq W] in
/-- The counter of a batch counts its claims, of which there are at most five. -/
theorem OutboxInv.attempts_eq (hs : OutboxInv s) {batchId : ℕ} {row : BatchRow}
    (hrow : s.db.batches batchId = some row) :
    row.attempts = s.log.countP (MailEvent.isClaimed batchId) ∧ row.attempts ≤ maxDeliveryAttempts := by
  have hcounted := (hs.rows batchId row hrow).counted
  refine ⟨hcounted, ?_⟩
  rw [hcounted]
  refine hs.orderly.countP_le fun before e he hclaim => ?_
  have hnumber := he.number hclaim
  cases e with
  | claimed w batchId' n =>
    have hlimit := he.2.1
    rw [MailEvent.attemptNo] at hnumber
    omega
  | _ => cases hclaim

/-- **A report is mailed at most once.** In every reachable pool: at most one request of a batch was
accepted or has an unknown result; a batch is claimed only when every request that left for it was
refused; the counter of a batch is the number of its claims, at most five; a completion or a decision
with the number of another attempt changes nothing; batches that are sent or failed stay as they are in
every continuation; and a report key belongs to one batch. -/
theorem report_mailed_once (P : MailPool W) (h : Transition.Reachable (mailSystem W parse) P) :
    (∀ batchId, P.shared.log.countP (MailEvent.isInconclusive P.shared.log batchId) ≤ 1) ∧
    (∀ before w batchId n after, P.shared.log = before ++ .claimed w batchId n :: after →
      ∀ w' m, .posted w' batchId m ∈ before → .refused batchId m ∈ before) ∧
    (∀ batchId row, P.shared.db.batches batchId = some row →
      row.attempts = P.shared.log.countP (MailEvent.isClaimed batchId) ∧ row.attempts ≤ 5) ∧
    (∀ (w : W) (c : MailCall) claim row answer t, c.completes = some claim →
      P.shared.db.batches claim.batchId = some row → row.attempts ≠ claim.attemptNo →
      mailAnswers w P.shared c answer t → t = P.shared) ∧
    (∀ batchId row attemptNo recipientId reportVersion reconciledAt decision db outcome,
      P.shared.db.batches batchId = some row → row.attempts ≠ attemptNo →
      reconcileSending P.shared.db batchId attemptNo recipientId reportVersion reconciledAt decision =
        .ok (db, outcome) → db = P.shared.db) ∧
    (∀ P', Relation.ReflTransGen (mailSystem W parse).step P P' → ∀ batchId row,
      P.shared.db.batches batchId = some row → row.status = .sent ∨ row.status = .permanentFailure →
      P'.shared.db.batches batchId = some row) ∧
    (∀ row ∈ P.shared.db.coverage, ∀ row' ∈ P.shared.db.coverage, row.key = row'.key →
      row.batchId = row'.batchId) := by
  have hok := mail_ok h
  have hs : OutboxInv P.shared := hok.1
  refine ⟨hs.inconclusive_le_one, fun before w batchId n after hlog => ?_,
    fun batchId row => hs.attempts_eq,
    fun w c claim row answer t => superseded_eq,
    fun batchId row attemptNo recipientId reportVersion reconciledAt decision db outcome =>
      reconcileSending_superseded, fun P' hrun batchId row hrow hterminal => ?_,
    fun row hmem row' hmem' hkey => ?_⟩
  · exact (hs.orderly before _ after hlog).2.2
  · obtain ⟨row', hrow', hkept⟩ := (Pool.evolves_of_run mail_sound hok hrun).rows batchId row hrow
    rw [hrow', hkept hterminal]
  · exact congrArg CoverageRow.batchId (List.inj_on_of_nodup_map hs.covered hmem hmem' hkey)

end Runs

/-- An outbox without rows. -/
def emptyOutbox : OutboxDatabase := ⟨fun _ => none, [], fun _ _ => none, fun _ _ => none⟩

/-- The artifact of a morning report. -/
def morningArtifact : ArtifactIdentity where
  objectKey := "daily-reports/2024/10/04/pilot_owner/v1/morning.xlsx"
  sha256 := "0123456789abcdef0123456789abcdef0123456789abcdef0123456789abcdef"
  htmlSha256 := "0123456789abcdef0123456789abcdef0123456789abcdef0123456789abcdef"

/-- A request whose result stays unknown. -/
theorem report_mailed_once_ambiguous : ∃ P : MailPool Unit,
    Transition.Reachable (mailSystem Unit fun _ => true) P ∧
    P.shared.log = [.claimed () 1 1, .posted () 1 1] ∧
    P.shared.log.countP (MailEvent.isInconclusive P.shared.log 1) ≤ 1 := by
  have hinit : Transition.Reachable (mailSystem Unit fun _ => true)
      ⟨⟨emptyOutbox, []⟩, fun _ => none⟩ := .init ⟨⟨fun _ => rfl, rfl, rfl⟩, fun _ => rfl⟩
  have hplan := hinit.step (.environment (.plan
    (show createPlanned emptyOutbox 1 morningDelivery = .ok (_, .inserted 1) from rfl)))
  have hgenerate := hplan.step (.environment (.generate (show startGeneration _ 1 = .ok (_, ()) from rfl)))
  have hpublish := hgenerate.step (.environment (.publish
    (show markReady _ _ 1 morningArtifact = .ok (_, ()) from rfl)))
  have hspawn := hpublish.step (.spawn () deliverReady rfl)
  obtain ⟨P, hP, hlog⟩ := Pool.reachable_of_may
    (R := fun s => s.log = [.claimed () 1 1, .posted () 1 1]) hspawn (Function.update_self ..) (by
      refine ⟨false, _, rfl, ?_⟩
      refine ⟨localHour 20000 morningHour, _, rfl, ?_⟩
      refine ⟨.ok true, _, ⟨rfl, fun ready hready => ?_⟩, ?_⟩
      · cases hready
        exact ⟨fun _ => ⟨1, _, rfl, rfl⟩, fun _ => rfl⟩
      refine ⟨.ok (), _, rfl, ?_⟩
      refine ⟨.ok (some _), _, ⟨some 1, .acknowledged () rfl⟩, ?_⟩
      refine ⟨.ok (), _, rfl, ?_⟩
      refine ⟨.ok (), _, rfl, ?_⟩
      refine ⟨(), _, rfl, ?_⟩
      refine ⟨.error .ambiguous, _, rfl, ?_⟩
      refine ⟨localHour 20000 morningHour, _, rfl, ?_⟩
      refine ⟨true, _, rfl, ?_⟩
      rfl)
  exact ⟨P, hP, hlog, (report_mailed_once P hP).1 1⟩

end AdsControl.Reporting.Outbox
