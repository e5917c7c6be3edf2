import AdsControl.Lib.Attempt
import AdsControl.Reporting.OutboxProtocol

/-!
# Outcomes and stored batches

A delivery reports an outcome; the outbox stores one. The worker decides about a retry by the deadline, the
outbox by the number of attempts, and the worker does not see which branch the outbox took.

* `claimIn`, `resultIn`, `finishedIn`: what a run was answered;
* `Agrees`: the stored batch is what the outcome says;
* `LastAttemptRetried`: the fifth attempt failed in a way that may be retried, with time left for it;
* **`outcome_agrees`**: outcome and batch agree in every other run, and never in such a run.
-/

namespace AdsControl.Reporting.Outbox

open Fallible Interaction

variable {W : Type}

/-! ## The answers of a run -/

/-- The effects of a run with their answers. -/
abbrev MailTrace : Type := List (Sigma MailCall.Answer)

/-- The claim of an answer. -/
def claimOf : Sigma MailCall.Answer → Option ClaimedDelivery
  | ⟨.claim _, .ok (some claim)⟩ => some claim
  | _ => none

/-- The artifact was loaded. -/
def isLoaded : Sigma MailCall.Answer → Bool
  | ⟨.loadArtifact _, .ok _⟩ => true
  | _ => false

/-- An error of the refresh or of the message, or the answer of the provider. -/
def resultOf : Sigma MailCall.Answer → Option (Except GmailDeliveryError String)
  | ⟨.authorize, .error error⟩ => some (.error error)
  | ⟨.prepareMessage _, .error error⟩ => some (.error error)
  | ⟨.receive _, .ok providerMessageId⟩ => some (.ok providerMessageId)
  | ⟨.receive _, .error error⟩ => some (.error (mapSendError error))
  | _ => none

/-- The instant that was read. -/
def readingOf : Sigma MailCall.Answer → Option ℤ
  | ⟨.now, instant⟩ => some instant
  | _ => none

/-- The claim of a run. -/
def claimIn (trace : MailTrace) : Option ClaimedDelivery := trace.findSome? claimOf

/-- The provider's answer in a run. -/
def resultIn (trace : MailTrace) : Option (Except GmailDeliveryError String) := trace.findSome? resultOf

/-- The last reading of the clock. -/
def finishedIn (trace : MailTrace) : Option ℤ := (trace.filterMap readingOf).getLast?

/-- **The stored batch is what the outcome says.** -/
def Agrees (trace : MailTrace) (db : OutboxDatabase) : DeliveryTickOutcome → Prop
  | .idle => True
  | .sent batchId attemptNo => ∃ row providerMessageId, db.batches batchId = some row ∧
      row.attempts = attemptNo ∧ row.status = .sent ∧ resultIn trace = some (.ok providerMessageId) ∧
      row.providerMessageId = some providerMessageId
  | .retryScheduled batchId attemptNo => ∃ row finishedAt retryAt deadlineAt, db.batches batchId = some row ∧
      row.attempts = attemptNo ∧ row.status = .ready ∧ row.nextAttemptAt = some retryAt ∧
      finishedIn trace = some finishedAt ∧ finishedAt < retryAt ∧
      ((db.coverageOf batchId).map CoverageRow.deadlineAt).max? = some deadlineAt ∧ retryAt ≤ deadlineAt
  | .retryExhausted batchId attemptNo => ∃ row, db.batches batchId = some row ∧ row.attempts = attemptNo ∧
      row.status = .permanentFailure
  | .permanentFailure batchId attemptNo => ∃ row, db.batches batchId = some row ∧ row.attempts = attemptNo ∧
      row.status = .permanentFailure
  | .ambiguous batchId attemptNo => ∃ row, db.batches batchId = some row ∧ row.attempts = attemptNo ∧
      row.status = .sending

/-- The last attempt failed in a way that may be retried, and a retry would have been due by the deadline. -/
def LastAttemptRetried (trace : MailTrace) : Prop :=
  ∃ claim error errorClass finishedAt, claimIn trace = some claim ∧ trace.any isLoaded ∧
    resultIn trace = some (.error error) ∧ transientClass error = some errorClass ∧
    finishedIn trace = some finishedAt ∧ maxDeliveryAttempts ≤ claim.attemptNo ∧
    finishedAt + retryDelay claim.attemptNo ≤ claim.deadlineAt

/-! ## The row of a claim -/

/-- The active attempt of a claim. -/
structure ActiveClaim (db : OutboxDatabase) (claim : ClaimedDelivery) : Prop where
  row : ∃ row, db.batches claim.batchId = some row ∧ row.attempts = claim.attemptNo ∧ row.status = .sending
  deadline : ((db.coverageOf claim.batchId).map CoverageRow.deadlineAt).max? = some claim.deadlineAt

theorem activeClaim_of_claimReady {db db' : OutboxDatabase} {now : ℤ} {selected : Option ℕ} {claim : ClaimedDelivery}
    (h : claimReady db now selected = .ok (db', some claim)) : ActiveClaim db' claim := by
  cases selected with
  | none => cases h
  | some batchId =>
    simp only [claimReady, ok_of_bind, ensure_eq_ok, context_eq_ok, ok_of_pure, Prod.mk.injEq,
      Option.some.injEq] at h
    obtain ⟨row, -, -, -, artifact, -, deadlineAt, hdeadline, rfl, rfl⟩ := h
    exact ⟨⟨_, Function.update_self .., rfl, rfl⟩, hdeadline⟩

theorem finishAttempt_row {db db' : OutboxDatabase} {claim : ClaimedDelivery}
    {updatedAt startedAt finishedAt : ℤ} {outcome : AttemptOutcome}
    {errorClass providerMessageId : Option String} {retryAt : Option ℤ} {u : Unit}
    (h : finishAttempt db updatedAt claim startedAt finishedAt outcome errorClass providerMessageId retryAt =
      .ok (db', u)) :
    db'.coverage = db.coverage ∧ ∃ row, db'.batches claim.batchId = some row ∧ row.attempts = claim.attemptNo ∧
      row.status = outcome.status ∧ row.providerMessageId = providerMessageId ∧ row.nextAttemptAt = retryAt := by
  simp only [finishAttempt, ok_of_bind, ensure_eq_ok, context_eq_ok, ok_of_pure, Prod.mk.injEq] at h
  obtain ⟨-, -, row, -, -, ⟨-, hattempts⟩, -, -, rfl, -⟩ := h
  exact ⟨rfl, _, Function.update_self .., hattempts, rfl, rfl, rfl⟩

theorem retryDelay_pos (attemptNo : ℕ) : 0 < retryDelay attemptNo := by
  have hpow : 0 < 2 ^ min (attemptNo - 1) 4 := Nat.two_pow_pos _
  unfold retryDelay seconds
  have hmin : 0 < min (60 * 2 ^ min (attemptNo - 1) 4 : ℤ) (15 * 60) := by
    refine lt_min ?_ (by norm_num)
    positivity
  positivity

/-! ## One result -/

/-- The row of a claim after its result was recorded. -/
def RowIs (db : OutboxDatabase) (claim : ClaimedDelivery) (status : DeliveryStatus)
    (providerMessageId : Option String) (nextAttemptAt : Option ℤ) : Prop :=
  ∃ row, db.batches claim.batchId = some row ∧ row.attempts = claim.attemptNo ∧ row.status = status ∧
    row.providerMessageId = providerMessageId ∧ row.nextAttemptAt = nextAttemptAt

/-- **The six ways a result is recorded.** -/
inductive Recorded (claim : ClaimedDelivery) (finishedAt : ℤ) (db : OutboxDatabase) :
    Except GmailDeliveryError String → DeliveryTickOutcome → Prop
  | sent {providerMessageId : String} (hrow : RowIs db claim .sent (some providerMessageId) none) :
      Recorded claim finishedAt db (.ok providerMessageId) (.sent claim.batchId claim.attemptNo)
  | ambiguous (hclaim : ActiveClaim db claim) :
      Recorded claim finishedAt db (.error .ambiguous) (.ambiguous claim.batchId claim.attemptNo)
  | permanent {error : GmailDeliveryError} (herror : transientClass error = none)
      (hrow : RowIs db claim .permanentFailure none none) :
      Recorded claim finishedAt db (.error error) (.permanentFailure claim.batchId claim.attemptNo)
  | retried {error : GmailDeliveryError} (hearly : claim.attemptNo < maxDeliveryAttempts)
      (hfits : finishedAt + retryDelay claim.attemptNo ≤ claim.deadlineAt)
      (hrow : RowIs db claim .ready none (some (finishedAt + retryDelay claim.attemptNo)))
      (hdeadline : ((db.coverageOf claim.batchId).map CoverageRow.deadlineAt).max? = some claim.deadlineAt) :
      Recorded claim finishedAt db (.error error) (.retryScheduled claim.batchId claim.attemptNo)
  | last {error : GmailDeliveryError} {errorClass : DeliveryErrorClass}
      (herror : transientClass error = some errorClass) (hlast : maxDeliveryAttempts ≤ claim.attemptNo)
      (hfits : finishedAt + retryDelay claim.attemptNo ≤ claim.deadlineAt)
      (hrow : RowIs db claim .permanentFailure none none) :
      Recorded claim finishedAt db (.error error) (.retryScheduled claim.batchId claim.attemptNo)
  | exhausted {error : GmailDeliveryError}
      (hlate : ¬ finishedAt + retryDelay claim.attemptNo ≤ claim.deadlineAt)
      (hrow : RowIs db claim .permanentFailure none none) :
      Recorded claim finishedAt db (.error error) (.retryExhausted claim.batchId claim.attemptNo)

/-- A command that answers nothing the outcome is compared with. -/
def Silent (e : Sigma MailCall.Answer) : Prop :=
  readingOf e = none ∧ claimOf e = none ∧ resultOf e = none ∧ isLoaded e = false

section Results

variable {w : W} {s t : MailWorld W} {claim : ClaimedDelivery} {startedAt finishedAt : ℤ} {trace : MailTrace}
  {outcome : DeliveryTickOutcome}

theorem completed_ok {op : ℤ → Except PostgresOutboxError (OutboxDatabase × Unit)}
    {answer : Except PostgresOutboxError Unit} {u : MailWorld W} {value : DeliveryTickOutcome}
    (hanswer : Transaction op s.commit s answer u)
    (h : Execution (mailAnswers w) (completed answer >>= fun _ => pure value) u trace (some (.ok outcome)) t) :
    trace = [] ∧ outcome = value ∧ ∃ updatedAt db, op updatedAt = .ok (db, ()) ∧ t.db = db := by
  obtain ⟨_, hok, hrest⟩ := Execution.ofExcept_bind_ok h
  obtain ⟨rfl, rfl, houtcome⟩ := hrest.pure_ok
  cases houtcome
  rw [ok_of_mapError] at hok
  subst hok
  obtain ⟨updatedAt, db, hop, rfl⟩ := hanswer.ok
  exact ⟨rfl, rfl, updatedAt, db, hop, rfl⟩

theorem claimed_ok {α : Type} {answer : Except PostgresOutboxError α} {f : α → MailProg DeliveryTickOutcome}
    (h : Execution (mailAnswers w) (claimed answer >>= f) s trace (some (.ok outcome)) t) :
    ∃ a, answer = .ok a ∧ Execution (mailAnswers w) (f a) s trace (some (.ok outcome)) t := by
  obtain ⟨a, hok, hrest⟩ := Execution.ofExcept_bind_ok h
  rw [ok_of_mapError] at hok
  exact ⟨a, hok, hrest⟩

theorem permanent_not_transient {error : GmailDeliveryError} {errorClass : DeliveryErrorClass}
    (h : permanentClass error = some errorClass) : transientClass error = none := by
  cases error <;> first | rfl | cases h

/-- **A known failure.** -/
theorem recordKnownFailure_spec {error : GmailDeliveryError}
    (h : Execution (mailAnswers w) (recordKnownFailure claim startedAt finishedAt error) s trace
      (some (.ok outcome)) t) (hclaim : ActiveClaim s.db claim) :
    (∀ e ∈ trace, Silent e) ∧ Recorded claim finishedAt t.db (.error error) outcome := by
  unfold recordKnownFailure at h
  cases hpermanent : permanentClass error with
  | some errorClass =>
    rw [hpermanent] at h
    obtain ⟨answer, u, rest, hanswer, htrace, hrest⟩ := h.perform_bind_ok
    obtain ⟨rfl, rfl, updatedAt, db, hop, hdb⟩ := completed_ok hanswer hrest
    simp only [recordPermanentFailure, ok_of_bind] at hop
    obtain ⟨-, -, text, -, hop⟩ := hop
    rw [hdb, htrace]
    exact ⟨by simp [Silent, readingOf, claimOf, resultOf, isLoaded],
      .permanent (permanent_not_transient hpermanent) (finishAttempt_row hop).2⟩
  | none =>
    rw [hpermanent] at h
    obtain ⟨errorClass, hclass, hretry⟩ := h.ofExcept_bind_ok
    rw [context_eq_ok] at hclass
    dsimp only at hretry
    split_ifs at hretry with hfits
    · obtain ⟨answer, u, rest, hanswer, htrace, hrest⟩ := hretry.perform_bind_ok
      obtain ⟨rfl, rfl, updatedAt, db, hop, hdb⟩ := completed_ok hanswer hrest
      rw [hdb, htrace]
      refine ⟨by simp [Silent, readingOf, claimOf, resultOf, isLoaded], ?_⟩
      simp only [recordTransientFailure, ok_of_bind] at hop
      obtain ⟨text, -, _, -, hop⟩ := hop
      split_ifs at hop with hlast
      · exact .last hclass hlast hfits (finishAttempt_row hop).2
      · simp only [ok_of_bind] at hop
        obtain ⟨_, -, hop⟩ := hop
        obtain ⟨hcoverage, hrow⟩ := finishAttempt_row hop
        refine .retried (not_le.mp hlast) hfits hrow ?_
        rw [OutboxDatabase.coverageOf, hcoverage]
        exact hclaim.deadline
    · obtain ⟨answer, u, rest, hanswer, htrace, hrest⟩ := hretry.perform_bind_ok
      obtain ⟨rfl, rfl, updatedAt, db, hop, hdb⟩ := completed_ok hanswer hrest
      simp only [recordExhaustedFailure, ok_of_bind] at hop
      obtain ⟨-, -, text, -, hop⟩ := hop
      rw [hdb, htrace]
      exact ⟨by simp [Silent, readingOf, claimOf, resultOf, isLoaded], .exhausted hfits (finishAttempt_row hop).2⟩

/-- **A result is recorded after one reading of the clock.** -/
theorem recordResult_spec {result : Except GmailDeliveryError String}
    (h : Execution (mailAnswers w) (recordResult claim startedAt result) s trace (some (.ok outcome)) t)
    (hclaim : ActiveClaim s.db claim) :
    ∃ finishedAt rest, trace = ⟨.now, finishedAt⟩ :: rest ∧ (∀ e ∈ rest, Silent e) ∧
      Recorded claim finishedAt t.db result outcome := by
  obtain ⟨finishedAt, u, rest, hnow, htrace, hrest⟩ := h.perform_bind_ok
  obtain rfl : u = s := hnow
  refine ⟨finishedAt, rest, htrace, ?_⟩
  clear h htrace
  rcases result with error | providerMessageId
  · cases error with
    | ambiguous =>
      obtain ⟨rfl, rfl, houtcome⟩ := hrest.pure_ok
      cases houtcome
      exact ⟨List.forall_mem_nil _, .ambiguous hclaim⟩
    | _ => exact recordKnownFailure_spec hrest hclaim
  · obtain ⟨answer, v, rest, hanswer, rfl, hdone⟩ := hrest.perform_bind_ok
    obtain ⟨rfl, rfl, updatedAt, db, hop, hdb⟩ := completed_ok hanswer hdone
    simp only [recordSent, ok_of_bind] at hop
    obtain ⟨-, -, -, -, hop⟩ := hop
    rw [hdb]
    exact ⟨by simp [Silent, readingOf, claimOf, resultOf, isLoaded], .sent (finishAttempt_row hop).2⟩

theorem finishedIn_eq (before : MailTrace) {rest : MailTrace} (h : ∀ e ∈ rest, readingOf e = none) :
    finishedIn (before ++ ⟨.now, finishedAt⟩ :: rest) = some finishedAt := by
  have hreading : readingOf ⟨.now, finishedAt⟩ = some finishedAt := rfl
  rw [finishedIn, List.filterMap_append, List.filterMap_cons, hreading, List.filterMap_eq_nil_iff.mpr h]
  exact List.getLast?_concat

/-- **The delivery itself** changes no batch; its result is the first answer that decides it. -/
theorem deliverAuthorized_spec {authorization result : Except GmailDeliveryError _}
    (h : Execution (mailAnswers w) (deliverAuthorized claim authorization) s trace (some (.ok result)) t) :
    t.db = s.db ∧ resultIn (⟨.authorize, authorization⟩ :: trace) = some result := by
  rcases authorization with error | _
  · obtain ⟨rfl, rfl, hresult⟩ := h.pure_ok
    cases hresult
    exact ⟨rfl, rfl⟩
  · obtain ⟨prepared, u, rest, hprepared, rfl, hrest⟩ := h.perform_bind_ok
    obtain rfl : u = s := hprepared
    rcases prepared with error | _
    · obtain ⟨rfl, rfl, hresult⟩ := hrest.pure_ok
      cases hresult
      exact ⟨rfl, rfl⟩
    · obtain ⟨_, v, rest, hposted, rfl, hsent⟩ := hrest.perform_bind_ok
      obtain ⟨received, t', rest, hreceived, rfl, hdone⟩ := hsent.perform_bind_ok
      obtain ⟨rfl, rfl, hresult⟩ := hdone.pure_ok
      obtain rfl : v = _ := hposted
      cases hresult
      rcases received with error | providerMessageId
      · refine ⟨?_, rfl⟩
        cases error <;> (obtain rfl : t = _ := hreceived) <;> rfl
      · obtain rfl : t = _ := hreceived
        exact ⟨rfl, rfl⟩

/-- What a delivery that returns went through. -/
inductive Delivered (trace : MailTrace) (db : OutboxDatabase) : DeliveryTickOutcome → Prop
  | idle (hclaim : claimIn trace = none) : Delivered trace db .idle
  | unloaded {claim : ClaimedDelivery} (hloaded : trace.any isLoaded = false)
      (hrow : RowIs db claim .permanentFailure none none) :
      Delivered trace db (.permanentFailure claim.batchId claim.attemptNo)
  | recorded {claim : ClaimedDelivery} {result : Except GmailDeliveryError String} {finishedAt : ℤ}
      {outcome : DeliveryTickOutcome} (hclaim : claimIn trace = some claim) (hloaded : trace.any isLoaded)
      (hresult : resultIn trace = some result) (hfinished : finishedIn trace = some finishedAt)
      (hrecorded : Recorded claim finishedAt db result outcome) : Delivered trace db outcome

theorem activeClaim_of_claim {now : ℤ}
    (h : mailAnswers w s (.claim now) (.ok (some claim)) t) : ActiveClaim t.db claim := by
  obtain ⟨selected, htransaction⟩ := h
  obtain ⟨_, d, hop, rfl⟩ := htransaction.ok
  rw [ok_of_map] at hop
  obtain ⟨⟨db, answer⟩, hready, hresult⟩ := hop
  obtain ⟨rfl, rfl⟩ := Prod.mk.inj hresult
  exact activeClaim_of_claimReady hready

/-- **One delivery.** -/
theorem deliverOne_spec (h : Execution (mailAnswers w) deliverOne s trace (some (.ok outcome)) t) :
    Delivered trace t.db outcome := by
  obtain ⟨startedAt, s₁, rest, hnow, rfl, h₁⟩ := h.perform_bind_ok
  obtain ⟨probed, s₂, rest, hprobed, rfl, h₂⟩ := h₁.perform_bind_ok
  obtain ⟨ready, -, h₃⟩ := claimed_ok h₂
  cases ready with
  | false =>
    obtain ⟨rfl, -, houtcome⟩ := h₃.pure_ok
    cases houtcome
    exact .idle rfl
  | true =>
    obtain ⟨authorization, s₃, rest, hauthorized, rfl, h₄⟩ := h₃.perform_bind_ok
    obtain ⟨answer, s₄, rest, hclaim, rfl, h₅⟩ := h₄.perform_bind_ok
    obtain ⟨claimed, rfl, h₆⟩ := claimed_ok h₅
    cases claimed with
    | none =>
      obtain ⟨rfl, -, houtcome⟩ := h₆.pure_ok
      cases houtcome
      exact .idle rfl
    | some claim =>
      have hactive := activeClaim_of_claim hclaim
      obtain ⟨loaded, s₅, rest, hloaded, rfl, h₇⟩ := h₆.perform_bind_ok
      obtain rfl : s₅ = s₄ := hloaded
      cases loaded with
      | error error =>
        obtain ⟨finishedAt, s₆, rest, hfinished, rfl, h₈⟩ := h₇.perform_bind_ok
        obtain ⟨answer, s₇, rest, hanswer, rfl, h₉⟩ := h₈.perform_bind_ok
        obtain ⟨rfl, rfl, updatedAt, db, hop, hdb⟩ := completed_ok hanswer h₉
        simp only [recordPermanentFailure, ok_of_bind] at hop
        obtain ⟨-, -, text, -, hop⟩ := hop
        rw [hdb]
        exact .unloaded (by simp [isLoaded]) (finishAttempt_row hop).2
      | ok loaded =>
        obtain ⟨result, s₆, middle, last, rfl, hdelivered, hrecorded⟩ := h₇.bind_ok
        obtain ⟨hdb, hresult⟩ := deliverAuthorized_spec hdelivered
        obtain ⟨finishedAt, rest, rfl, hsilent, hrow⟩ := recordResult_spec hrecorded (hdb ▸ hactive)
        refine @Delivered.recorded _ _ claim result finishedAt _ rfl ?_ ?_ ?_ hrow
        · simp [isLoaded]
        · rcases authorization with error | _
          · exact hresult
          · replace hresult : middle.findSome? resultOf = some result := hresult
            show (middle ++ ⟨.now, finishedAt⟩ :: rest).findSome? resultOf = some result
            rw [List.findSome?_append, hresult]
            rfl
        · exact finishedIn_eq (_ :: _ :: _ :: _ :: _ :: middle) fun e he => (hsilent e he).1

/-! ## Agreement -/

theorem not_lastAttemptRetried_of_recorded {result : Except GmailDeliveryError String}
    (hclaim : claimIn trace = some claim) (hresult : resultIn trace = some result)
    (hfinished : finishedIn trace = some finishedAt)
    (h : ∀ error errorClass, result = .error error → transientClass error = some errorClass →
      maxDeliveryAttempts ≤ claim.attemptNo → ¬ finishedAt + retryDelay claim.attemptNo ≤ claim.deadlineAt) :
    ¬ LastAttemptRetried trace := by
  rintro ⟨claim', error, errorClass, finishedAt', hclaim', -, hresult', hclass, hfinished', hlast, hfits⟩
  rw [hclaim, Option.some.injEq] at hclaim'
  rw [hresult, Option.some.injEq] at hresult'
  rw [hfinished, Option.some.injEq] at hfinished'
  subst hclaim' hfinished'
  exact h error errorClass hresult' hclass hlast hfits

/-- **Outcome and batch agree unless the last attempt was retried.** -/
theorem Delivered.agrees_iff {db : OutboxDatabase} (h : Delivered trace db outcome) :
    Agrees trace db outcome ↔ ¬ LastAttemptRetried trace := by
  cases h with
  | idle hclaim =>
    refine iff_of_true trivial ?_
    rintro ⟨claim, -, -, -, hclaim', -⟩
    rw [hclaim] at hclaim'
    cases hclaim'
  | @unloaded claim hloaded hrow =>
    obtain ⟨row, hrow, hattempts, hstatus, -⟩ := hrow
    refine iff_of_true ⟨row, hrow, hattempts, hstatus⟩ ?_
    rintro ⟨-, -, -, -, -, hloaded', -⟩
    rw [hloaded] at hloaded'
    cases hloaded'
  | @recorded claim result finishedAt _ hclaim hloaded hresult hfinished hrecorded =>
    have hnot := not_lastAttemptRetried_of_recorded hclaim hresult hfinished
    cases hrecorded with
    | sent hrow =>
      obtain ⟨row, hrow, hattempts, hstatus, hmessage, -⟩ := hrow
      exact iff_of_true ⟨row, _, hrow, hattempts, hstatus, hresult, hmessage⟩ (hnot fun _ _ h => (nomatch h))
    | ambiguous hactive =>
      refine iff_of_true hactive.row (hnot fun error errorClass herror hclass => ?_)
      cases herror
      cases hclass
    | permanent herror hrow =>
      obtain ⟨row, hrow, hattempts, hstatus, -⟩ := hrow
      refine iff_of_true ⟨row, hrow, hattempts, hstatus⟩ (hnot fun error errorClass heq hclass => ?_)
      cases heq
      rw [herror] at hclass
      cases hclass
    | retried hearly hfits hrow hdeadline =>
      obtain ⟨row, hrow, hattempts, hstatus, -, hnext⟩ := hrow
      refine iff_of_true ⟨row, finishedAt, _, _, hrow, hattempts, hstatus, hnext, hfinished,
        lt_add_of_pos_right _ (retryDelay_pos _), hdeadline, hfits⟩ (hnot fun _ _ _ _ hlast => ?_)
      exact absurd hlast (not_le.mpr hearly)
    | last herror hlast hfits hrow =>
      refine iff_of_false ?_ fun hnot => hnot ⟨claim, _, _, finishedAt, hclaim, hloaded, hresult, herror,
        hfinished, hlast, hfits⟩
      obtain ⟨row, hrow, -, hstatus, -⟩ := hrow
      rintro ⟨row', -, -, -, hrow', -, hready, -⟩
      rw [hrow, Option.some.injEq] at hrow'
      rw [← hrow', hstatus] at hready
      cases hready
    | exhausted hlate hrow =>
      obtain ⟨row, hrow, hattempts, hstatus, -⟩ := hrow
      exact iff_of_true ⟨row, hrow, hattempts, hstatus⟩ (hnot fun _ _ _ _ _ => hlate)

end Results

/-! ## The retry time -/

theorem enforceDeliveryBatchState_eq_ok {db : OutboxDatabase} {updatedAt : ℤ} {batchId : ℕ} {row : BatchRow}
    {u : Unit} : enforceDeliveryBatchState db updatedAt batchId row = .ok u ↔ (row.status = .ready →
      ∃ latestDeadline, ((db.coverageOf batchId).map CoverageRow.deadlineAt).max? = some latestDeadline ∧
        ∃ nextAttemptAt, row.nextAttemptAt = some nextAttemptAt ∧
          updatedAt < nextAttemptAt ∧ nextAttemptAt ≤ latestDeadline ∧ updatedAt ≤ latestDeadline) := by
  unfold enforceDeliveryBatchState
  by_cases hready : row.status = .ready
  · rw [if_pos hready, imp_iff_right hready]
    simp only [ok_of_bind, context_eq_ok, ensure_eq_ok]
  · rw [if_neg hready]
    exact iff_of_true rfl fun h => absurd h hready

/-- A completion of the active attempt commits, unless it asks for a retry that the trigger refuses. -/
theorem finishAttempt_commits {db : OutboxDatabase} {claim : ClaimedDelivery}
    {updatedAt startedAt finishedAt : ℤ} {outcome : AttemptOutcome}
    {errorClass providerMessageId : Option String} {retryAt : Option ℤ} (hactive : ActiveClaim db claim)
    (hfresh : db.deliveryAttempts claim.batchId claim.attemptNo = none) :
    (∃ db', finishAttempt db updatedAt claim startedAt finishedAt outcome errorClass providerMessageId retryAt =
      .ok (db', ())) ↔
      (outcome = .transient → ∃ retry, retryAt = some retry ∧ updatedAt < retry ∧ retry ≤ claim.deadlineAt) := by
  obtain ⟨row, hrow, hattempts, hstatus⟩ := hactive.row
  have hready : outcome.status = .ready ↔ outcome = .transient := by
    cases outcome <;> decide
  simp only [finishAttempt, ok_of_bind, ensure_eq_ok, context_eq_ok, ok_of_pure, hfresh, Option.isNone_none,
    Prod.mk.injEq, enforceDeliveryBatchState_eq_ok, hready, exists_const]
  constructor
  · rintro ⟨db', -, row', -, -, htrigger, -⟩ htransient
    obtain ⟨latestDeadline, hlatest, retry, hretry, hafter, hwithin, -⟩ := htrigger htransient
    obtain rfl : claim.deadlineAt = latestDeadline := Option.some.inj (hactive.deadline.symm.trans hlatest)
    exact ⟨retry, hretry, hafter, hwithin⟩
  · intro hretry
    refine ⟨_, trivial, row, hrow, ⟨hstatus, hattempts⟩, fun htransient => ?_, rfl, trivial⟩
    obtain ⟨retry, hsome, hafter, hwithin⟩ := hretry htransient
    exact ⟨claim.deadlineAt, hactive.deadline, retry, hsome, hafter, hwithin, (hafter.trans_le hwithin).le⟩

/-- A retry time of the worker passes the checks of the outbox while the database has not reached it. -/
theorem recordTransientFailure_commits {db : OutboxDatabase} {claim : ClaimedDelivery}
    {startedAt finishedAt : ℤ} (updatedAt : ℤ) {error : GmailDeliveryError} {errorClass : DeliveryErrorClass}
    (herror : transientClass error = some errorClass) (htimes : startedAt ≤ finishedAt)
    (hactive : ActiveClaim db claim) (hfresh : db.deliveryAttempts claim.batchId claim.attemptNo = none)
    (hfits : finishedAt + retryDelay claim.attemptNo ≤ claim.deadlineAt) :
    (∃ db', recordTransientFailure db updatedAt claim startedAt finishedAt errorClass
      (finishedAt + retryDelay claim.attemptNo) = .ok (db', ())) ↔
      maxDeliveryAttempts ≤ claim.attemptNo ∨ updatedAt < finishedAt + retryDelay claim.attemptNo := by
  obtain ⟨text, htext⟩ : ∃ text, transientErrorText errorClass = .ok text := by
    cases error <;> cases herror <;> exact ⟨_, rfl⟩
  have hretry : finishedAt < finishedAt + retryDelay claim.attemptNo :=
    lt_add_of_pos_right _ (retryDelay_pos _)
  have hpassed : ∀ db', recordTransientFailure db updatedAt claim startedAt finishedAt errorClass
      (finishedAt + retryDelay claim.attemptNo) = .ok (db', ()) ↔
      (if maxDeliveryAttempts ≤ claim.attemptNo then
        finishAttempt db updatedAt claim startedAt finishedAt .permanent (some text) none none
      else finishAttempt db updatedAt claim startedAt finishedAt .transient (some text) none
        (some (finishedAt + retryDelay claim.attemptNo))) = .ok (db', ()) := by
    intro db'
    rw [recordTransientFailure, htext, validateAttemptTimes, ensure, if_pos htimes, ensure,
      if_pos ⟨hretry, hfits⟩]
    rfl
  simp only [hpassed]
  by_cases hlast : maxDeliveryAttempts ≤ claim.attemptNo
  · refine iff_of_true ?_ (.inl hlast)
    simp only [if_pos hlast]
    exact (finishAttempt_commits hactive hfresh).mpr (by simp)
  · rw [or_iff_right hlast]
    simp only [if_neg hlast]
    rw [finishAttempt_commits hactive hfresh]
    simp [hfits]

/-- **Outcomes agree with the outbox.** A delivery that returns reports what the outbox stores exactly when it
is not a retried last attempt; and the outbox accepts a retry time of the worker exactly when the attempt is
the last one or the database records it before that time. -/
theorem outcome_agrees (w : W) (s t : MailWorld W) (trace : MailTrace) (outcome : DeliveryTickOutcome) :
    (Execution (mailAnswers w) deliverOne s trace (some (.ok outcome)) t →
      (Agrees trace t.db outcome ↔ ¬ LastAttemptRetried trace)) ∧
    ∀ db updatedAt claim startedAt finishedAt error errorClass, transientClass error = some errorClass →
      startedAt ≤ finishedAt → ActiveClaim db claim → db.deliveryAttempts claim.batchId claim.attemptNo = none →
      finishedAt + retryDelay claim.attemptNo ≤ claim.deadlineAt →
      ((∃ db', recordTransientFailure db updatedAt claim startedAt finishedAt errorClass
        (finishedAt + retryDelay claim.attemptNo) = .ok (db', ())) ↔
        maxDeliveryAttempts ≤ claim.attemptNo ∨ updatedAt < finishedAt + retryDelay claim.attemptNo) :=
  ⟨fun h => (deliverOne_spec h).agrees_iff, fun _ updatedAt _ _ _ _ _ => recordTransientFailure_commits updatedAt⟩

theorem recordKnownFailure_retry {claim : ClaimedDelivery} {startedAt finishedAt : ℤ} {error : GmailDeliveryError}
    {errorClass : DeliveryErrorClass} (hpermanent : permanentClass error = none)
    (hclass : transientClass error = some errorClass)
    (hfits : finishedAt + retryDelay claim.attemptNo ≤ claim.deadlineAt) :
    recordKnownFailure claim startedAt finishedAt error = (do
      completed (← ask (.transient claim startedAt finishedAt errorClass (finishedAt + retryDelay claim.attemptNo)))
      return .retryScheduled claim.batchId claim.attemptNo) := by
  have hretry : ∀ later earlier : MailProg DeliveryTickOutcome,
      (if finishedAt + retryDelay claim.attemptNo ≤ claim.deadlineAt then later else earlier) = later :=
    fun _ _ => if_pos hfits
  rw [recordKnownFailure, hpermanent, hclass]
  exact hretry _ _

/-! ## A morning report -/

/-- The morning report in a state of its batch. -/
def morningRow (status : DeliveryStatus) (attempts : ℕ) (nextAttemptAt : Option ℤ) : BatchRow where
  recipientId := "pilot_owner"
  reportVersion := 1
  scheduledFor := localHour 20000 morningHour
  delayed := false
  status := status
  attempts := attempts
  artifact := some morningArtifact
  nextAttemptAt := nextAttemptAt
  providerMessageId := none
  lastErrorClass := some "rate_limited"
  sentAt := none

/-- The report after failed attempts; the next one is due at nine. -/
def failedAttempts (attempts : ℕ) : OutboxDatabase where
  batches := Function.update (fun _ => none) 1
    (some (morningRow .ready attempts (some (localHour 20000 9))))
  coverage := [⟨1, ⟨20000, .morning, "pilot_owner", 1⟩, localHour 20000 morningDeadlineHour⟩]
  deliveryAttempts := fun _ _ => none
  reconciliations := fun _ _ => none

/-- The claim of the next attempt. -/
def nextClaim (attempts : ℕ) : ClaimedDelivery where
  batchId := 1
  recipientId := "pilot_owner"
  reportVersion := 1
  attemptNo := attempts + 1
  artifact := morningArtifact
  coveredKeys := [⟨20000, .morning, "pilot_owner", 1⟩]
  deadlineAt := localHour 20000 morningDeadlineHour

/-- The report while the next attempt is made. -/
def nextAttempt (attempts : ℕ) : OutboxDatabase :=
  (failedAttempts attempts).putBatch 1 (morningRow .sending (attempts + 1) none)

/-- The report after four failed attempts. -/
def fourAttempts : OutboxDatabase := failedAttempts 4

/-- The claim of the last attempt. -/
def fifthClaim : ClaimedDelivery := nextClaim 4

/-- The outbox during the last attempt. -/
def fifthAttempt : OutboxDatabase := nextAttempt 4

/-- A delivery whose authorization is rate limited, within one reading of the clock. -/
def limitedTrace (now : ℤ) (claim : ClaimedDelivery) : MailTrace :=
  [⟨.now, now⟩, ⟨.hasReady now, .ok true⟩, ⟨.authorize, .error .oauthRateLimited⟩,
    ⟨.claim now, .ok (some claim)⟩, ⟨.loadArtifact claim, .ok ()⟩, ⟨.now, now⟩,
    ⟨.transient claim now now .rateLimited (now + retryDelay claim.attemptNo), .ok ()⟩]

theorem ready_failedAttempts {attempts : ℕ} (h : attempts < maxDeliveryAttempts) :
    isReadyBatch (failedAttempts attempts) (localHour 20000 9) 1
      (morningRow .ready attempts (some (localHour 20000 9))) = true := by
  simp only [isReadyBatch, morningRow, h]
  rfl

theorem probe_failedAttempts {attempts : ℕ} (h : attempts < maxDeliveryAttempts) :
    mailAnswers () ⟨failedAttempts attempts, []⟩ (.hasReady (localHour 20000 9)) (.ok true)
      ⟨failedAttempts attempts, []⟩ := by
  refine ⟨rfl, fun ready hready => ?_⟩
  cases hready
  exact ⟨fun _ => ⟨1, _, rfl, ready_failedAttempts h⟩, fun _ => rfl⟩

theorem claim_failedAttempts {attempts : ℕ} (h : attempts < maxDeliveryAttempts) :
    mailAnswers () ⟨failedAttempts attempts, []⟩ (.claim (localHour 20000 9))
      (.ok (some (nextClaim attempts))) ⟨nextAttempt attempts, [.claimed () 1 (attempts + 1)]⟩ := by
  have hclaim : claimReady (failedAttempts attempts) (localHour 20000 9) (some 1) =
      .ok (nextAttempt attempts, some (nextClaim attempts)) := by
    simp only [claimReady, ok_of_bind, context_eq_ok, ensure_eq_ok, ok_of_pure]
    exact ⟨_, rfl, (), ready_failedAttempts h, _, rfl, _, rfl, rfl⟩
  exact ⟨some 1, Transaction.acknowledged (d := (nextAttempt attempts, some (nextClaim attempts))) ()
    (ok_of_map.mpr ⟨_, hclaim, rfl⟩)⟩

theorem execution_limited {attempts : ℕ} {db : OutboxDatabase} (h : attempts < maxDeliveryAttempts)
    (hfits : localHour 20000 9 + retryDelay (nextClaim attempts).attemptNo ≤ (nextClaim attempts).deadlineAt)
    (hfail : recordTransientFailure (nextAttempt attempts) (localHour 20000 9) (nextClaim attempts)
      (localHour 20000 9) (localHour 20000 9) .rateLimited
      (localHour 20000 9 + retryDelay (nextClaim attempts).attemptNo) = .ok (db, ())) :
    Execution (mailAnswers ()) deliverOne ⟨failedAttempts attempts, []⟩
      (limitedTrace (localHour 20000 9) (nextClaim attempts))
      (some (.ok (.retryScheduled 1 (nextClaim attempts).attemptNo))) ⟨db, [.claimed () 1 (attempts + 1)]⟩ := by
  have hstarted : mailAnswers () ⟨failedAttempts attempts, []⟩ .now (localHour 20000 9)
      ⟨failedAttempts attempts, []⟩ := rfl
  have hlimited : mailAnswers () ⟨failedAttempts attempts, []⟩ .authorize (.error .oauthRateLimited)
      ⟨failedAttempts attempts, []⟩ := rfl
  have hloaded : mailAnswers () ⟨nextAttempt attempts, [.claimed () 1 (attempts + 1)]⟩
      (.loadArtifact (nextClaim attempts)) (.ok ()) ⟨nextAttempt attempts, [.claimed () 1 (attempts + 1)]⟩ := rfl
  have hfinished : mailAnswers () ⟨nextAttempt attempts, [.claimed () 1 (attempts + 1)]⟩ .now
      (localHour 20000 9) ⟨nextAttempt attempts, [.claimed () 1 (attempts + 1)]⟩ := rfl
  have hfailed : mailAnswers () ⟨nextAttempt attempts, [.claimed () 1 (attempts + 1)]⟩
      (.transient (nextClaim attempts) (localHour 20000 9) (localHour 20000 9) .rateLimited
        (localHour 20000 9 + retryDelay (nextClaim attempts).attemptNo)) (.ok ())
      ⟨db, [.claimed () 1 (attempts + 1)]⟩ := Transaction.acknowledged (d := db) (localHour 20000 9) hfail
  have hknown : Execution (mailAnswers ()) (recordKnownFailure (nextClaim attempts) (localHour 20000 9)
      (localHour 20000 9) .oauthRateLimited) ⟨nextAttempt attempts, [.claimed () 1 (attempts + 1)]⟩
      [⟨.transient (nextClaim attempts) (localHour 20000 9) (localHour 20000 9) .rateLimited
        (localHour 20000 9 + retryDelay (nextClaim attempts).attemptNo), .ok ()⟩]
      (some (.ok (.retryScheduled 1 (nextClaim attempts).attemptNo))) ⟨db, [.claimed () 1 (attempts + 1)]⟩ := by
    rw [recordKnownFailure_retry rfl rfl hfits]
    exact .call hfailed .ret
  refine .call hstarted ?_
  refine .call (probe_failedAttempts h) ?_
  refine .call hlimited ?_
  refine .call (claim_failedAttempts h) ?_
  refine .call hloaded ?_
  exact .call hfinished hknown

/-- The second attempt meets a limit of the authorization: the retry that is reported is stored, if the
database records it within its two minutes. -/
theorem outcome_agrees_second_attempt :
    (∃ db, Execution (mailAnswers ()) deliverOne ⟨failedAttempts 1, []⟩
        (limitedTrace (localHour 20000 9) (nextClaim 1)) (some (.ok (.retryScheduled 1 2)))
        ⟨db, [.claimed () 1 2]⟩ ∧
      Agrees (limitedTrace (localHour 20000 9) (nextClaim 1)) db (.retryScheduled 1 2)) ∧
    ∀ updatedAt, (∃ db', recordTransientFailure (nextAttempt 1) updatedAt (nextClaim 1) (localHour 20000 9)
        (localHour 20000 9) .rateLimited (localHour 20000 9 + retryDelay 2) = .ok (db', ())) ↔
      updatedAt < localHour 20000 9 + retryDelay 2 := by
  obtain ⟨db, hfail⟩ : ∃ db, recordTransientFailure (nextAttempt 1) (localHour 20000 9) (nextClaim 1)
      (localHour 20000 9) (localHour 20000 9) .rateLimited (localHour 20000 9 + retryDelay 2) = .ok (db, ()) :=
    ⟨_, rfl⟩
  have hrun := execution_limited (by decide) (by decide) hfail
  have hearly : ¬ LastAttemptRetried (limitedTrace (localHour 20000 9) (nextClaim 1)) := by
    rintro ⟨claim, -, -, -, hclaim, -, -, -, -, hlast, -⟩
    cases hclaim
    exact absurd hlast (by decide)
  refine ⟨⟨db, hrun, ((outcome_agrees () _ _ _ _).1 hrun).mpr hearly⟩, fun updatedAt => ?_⟩
  have hactive : ActiveClaim (nextAttempt 1) (nextClaim 1) := ⟨⟨_, rfl, rfl, rfl⟩, rfl⟩
  have hretry := (outcome_agrees () ⟨nextAttempt 1, []⟩ ⟨nextAttempt 1, []⟩ [] .idle).2 (nextAttempt 1) updatedAt
    (nextClaim 1) (localHour 20000 9) (localHour 20000 9) .oauthRateLimited .rateLimited rfl le_rfl hactive rfl
    (by decide)
  exact hretry.trans (or_iff_right (by decide))

theorem fail_fifth : ∃ db, recordTransientFailure fifthAttempt (localHour 20000 9) fifthClaim
      (localHour 20000 9) (localHour 20000 9) .rateLimited
      (localHour 20000 9 + retryDelay fifthClaim.attemptNo) = .ok (db, ()) ∧
    ∃ row, db.batches 1 = some row ∧ row.status = .permanentFailure :=
  ⟨_, rfl, _, rfl, rfl⟩

/-- The fifth attempt meets a limit of the authorization: the worker reports a retry, the outbox stores a
permanent failure. -/
theorem fifth_attempt_reported_as_retry : ∃ (trace : MailTrace) (t : MailWorld Unit),
    Execution (mailAnswers ()) deliverOne ⟨fourAttempts, []⟩ trace (some (.ok (.retryScheduled 1 5))) t ∧
    (∃ row, t.db.batches 1 = some row ∧ row.status = .permanentFailure) ∧
    ¬ Agrees trace t.db (.retryScheduled 1 5) := by
  obtain ⟨db, hfail, row, hrow, hstatus⟩ := fail_fifth
  refine ⟨_, _, execution_limited (by decide) (by decide) hfail, ⟨row, hrow, hstatus⟩, ?_⟩
  rintro ⟨row', -, -, -, hrow', -, hready, -⟩
  rw [hrow, Option.some.injEq] at hrow'
  rw [← hrow', hstatus] at hready
  cases hready

end AdsControl.Reporting.Outbox
