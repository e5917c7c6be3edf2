import AdsControl.Reporting.OutboxOutcome

/-!
# Deliveries and their deadline

The worker reads the clock once, before the probe, the refresh of its authorization, the claim and the load of
the artifact, and starts the delivery without reading it again. A claim is refused when its row is updated
after the deadline of the batch, whatever time the worker asked with; the load comes later.

* `Timing`, `timedAnswers`: a clock that every command moves on, and the starts of deliveries;
* **`delivery_starts_by_deadline`**: a delivery starts in time exactly when the rest of the claim and the load
  fit into the time that was left when the row was updated.
-/

namespace AdsControl.Reporting.Outbox

open Interaction

variable {W : Type}

/-! ## Time -/

/-- How long the commands of a delivery take. The row of a claim is updated after `update`. -/
structure Timing where
  reading : ℕ
  probe : ℕ
  refresh : ℕ
  update : ℕ
  claimed : ℕ
  load : ℕ
  other : ℕ

/-- How long each effect may take. -/
def Timing.duration (timing : Timing) : MailCall → ℕ
  | .now => timing.reading
  | .hasReady _ => timing.probe
  | .authorize => timing.refresh
  | .claim _ => timing.update + timing.claimed
  | .loadArtifact _ => timing.load
  | _ => timing.other

/-- The outbox and the provider, the clock, and the deliveries that started. -/
structure TimedMail (W : Type) where
  world : MailWorld W
  clock : ℤ
  started : List (ClaimedDelivery × ℤ)

/-- An instant lies within a command. -/
def Within (clock : ℤ) (duration : ℕ) (instant : ℤ) : Prop := clock ≤ instant ∧ instant ≤ clock + duration

/-- A reading lies within its command; the row of a claim is updated by the deadline. -/
def clockAllows (timing : Timing) (clock : ℤ) : (c : MailCall) → c.Answer → Prop
  | .now, instant => Within clock timing.reading instant
  | .claim _, .ok (some claim) => clock + timing.update ≤ claim.deadlineAt
  | _, _ => True

/-- A delivery starts with its message. -/
def startedBy (clock : ℤ) : MailCall → List (ClaimedDelivery × ℤ)
  | .prepareMessage claim => [(claim, clock)]
  | _ => []

/-- An answer within its time. -/
structure TimedAnswer (timing : Timing) (w : W) (s : TimedMail W) (c : MailCall) (answer : c.Answer)
    (t : TimedMail W) : Prop where
  world : mailAnswers w s.world c answer t.world
  clock : t.clock = s.clock + timing.duration c
  allowed : clockAllows timing s.clock c answer
  started : t.started = s.started ++ startedBy s.clock c

/-! ## Starts -/

/-- The effects of a run with their answers. -/
abbrev TimedTrace : Type := List (Sigma MailCall.Answer)

/-- The message is prepared. -/
def MailCall.isPrepare : MailCall → Bool
  | .prepareMessage _ => true
  | _ => false

/-- No delivery starts, or one, for the claim and at the instant that `P` allows. -/
def Starts (P : ClaimedDelivery → ℤ → Prop) (before : List (ClaimedDelivery × ℤ)) (trace : TimedTrace)
    (after : List (ClaimedDelivery × ℤ)) : Prop :=
  (after = before ∧ ∀ e ∈ trace, e.1.isPrepare = false) ∨
    ∃ claim instant, P claim instant ∧ after = before ++ [(claim, instant)] ∧
      (∃ e ∈ trace, e.1 = .prepareMessage claim) ∧
      ∀ e ∈ trace, ∀ claim', e.1 = .prepareMessage claim' → claim' = claim

section Starts

variable {P : ClaimedDelivery → ℤ → Prop} {before after : List (ClaimedDelivery × ℤ)} {trace : TimedTrace}

theorem starts_nil (P : ClaimedDelivery → ℤ → Prop) (before : List (ClaimedDelivery × ℤ)) :
    Starts P before [] before := .inl ⟨rfl, List.forall_mem_nil _⟩

theorem Starts.cons {e : Sigma MailCall.Answer} (he : e.1.isPrepare = false) (h : Starts P before trace after) :
    Starts P before (e :: trace) after := by
  obtain ⟨heq, hquiet⟩ | ⟨claim, instant, hP, heq, ⟨e', he', hprepare⟩, honly⟩ := h
  · exact .inl ⟨heq, List.forall_mem_cons.mpr ⟨he, hquiet⟩⟩
  · refine .inr ⟨claim, instant, hP, heq, ⟨e', List.mem_cons_of_mem _ he', hprepare⟩,
      List.forall_mem_cons.mpr ⟨fun claim' hclaim' => ?_, honly⟩⟩
    rw [hclaim'] at he
    cases he

end Starts

section Runs

variable {timing : Timing} {w : W} {s t : TimedMail W} {trace : TimedTrace} {α : Type}
  {outcome : Option (Except GmailOutboxError α)}

theorem quiet_of_asks {p : MailProg α} (hp : p.Asks fun c => c.isPrepare = false)
    (h : Execution (TimedAnswer timing w) p s trace outcome t) :
    t.started = s.started ∧ ∀ e ∈ trace, e.1.isPrepare = false := by
  induction h with
  | stop => exact ⟨rfl, List.forall_mem_nil _⟩
  | ret => exact ⟨rfl, List.forall_mem_nil _⟩
  | fail => exact ⟨rfl, List.forall_mem_nil _⟩
  | @call c k a s t u trace outcome hanswer _ ih =>
    obtain ⟨hstarted, hquiet⟩ := ih (hp.2 a)
    refine ⟨?_, List.forall_mem_cons.mpr ⟨hp.1, hquiet⟩⟩
    have hnone : startedBy s.clock c = [] := by
      have hquiet := hp.1
      cases c <;> first | rfl | cases hquiet
    rw [hstarted, hanswer.started, hnone, List.append_nil]

theorem starts_of_quiet {p : MailProg α} (h : Execution (TimedAnswer timing w) p s trace outcome t)
    (hp : p.Asks fun c => c.isPrepare = false) (P : ClaimedDelivery → ℤ → Prop) :
    Starts P s.started trace t.started := .inl (quiet_of_asks hp h)

/-- The instant at which the row of a claim is updated. -/
def updatedAt (timing : Timing) (clock : ℤ) : ℤ :=
  clock + timing.reading + timing.probe + timing.refresh + timing.update

/-- A delivery starts after the claim and the load, for a claim whose row was updated in time. -/
def StartsAfterLoad (timing : Timing) (updated : ℤ) (claim : ClaimedDelivery) (instant : ℤ) : Prop :=
  updated ≤ claim.deadlineAt ∧ instant = updated + timing.claimed + timing.load

theorem asks_completed {answer : Except PostgresOutboxError Unit} {f : Unit → MailProg α} {P : MailCall → Prop}
    (hf : ∀ u, (f u).Asks P) : (completed answer >>= f).Asks P := .ofExcept_bind hf

theorem asks_recordKnownFailure (claim : ClaimedDelivery) (startedAt finishedAt : ℤ) (error : GmailDeliveryError) :
    (recordKnownFailure claim startedAt finishedAt error).Asks fun c => c.isPrepare = false := by
  unfold recordKnownFailure
  split
  · exact .perform_bind rfl fun _ => asks_completed fun _ => trivial
  · refine .ofExcept_bind fun errorClass => ?_
    dsimp only
    split_ifs
    · exact .perform_bind rfl fun _ => asks_completed fun _ => trivial
    · exact .perform_bind rfl fun _ => asks_completed fun _ => trivial

theorem asks_recordResult (claim : ClaimedDelivery) (startedAt : ℤ) (result : Except GmailDeliveryError String) :
    (recordResult claim startedAt result).Asks fun c => c.isPrepare = false := by
  refine .perform_bind rfl fun finishedAt => ?_
  rcases result with error | providerMessageId
  · cases error with
    | ambiguous => trivial
    | _ => exact asks_recordKnownFailure claim startedAt finishedAt _
  · exact .perform_bind rfl fun _ => asks_completed fun _ => trivial

/-- The message of an authorized delivery is prepared first. -/
theorem starts_delivery {claim : ClaimedDelivery} {startedAt : ℤ}
    {outcome : Option (Except GmailOutboxError DeliveryTickOutcome)}
    (authorization : Except GmailDeliveryError Unit)
    (h : Execution (TimedAnswer timing w)
      (deliverAuthorized claim authorization >>= fun result => recordResult claim startedAt result) s trace outcome t) :
    Starts (fun claim' instant => claim' = claim ∧ instant = s.clock) s.started trace t.started := by
  rcases authorization with error | _
  · exact starts_of_quiet h (asks_recordResult claim startedAt (.error error)) _
  · obtain ⟨rfl, -, rfl⟩ | ⟨prepared, u, rest, hprepared, rfl, hrest⟩ := Execution.perform_bind h
    · exact starts_nil _ _
    · have hquiet : t.started = u.started ∧ ∀ e ∈ rest, e.1.isPrepare = false := by
        rcases prepared with error | _
        · exact quiet_of_asks (asks_recordResult claim startedAt (.error error)) hrest
        · exact quiet_of_asks
            (.perform_bind rfl fun _ => .perform_bind rfl fun _ => asks_recordResult claim startedAt _) hrest
      obtain ⟨hstarted, hquiet⟩ := hquiet
      refine .inr ⟨claim, s.clock, ⟨rfl, rfl⟩, hstarted.trans hprepared.started, ⟨_, List.mem_cons_self, rfl⟩, ?_⟩
      refine List.forall_mem_cons.mpr ⟨fun claim' hclaim' => (MailCall.prepareMessage.inj hclaim').symm,
        fun e he claim' hclaim' => ?_⟩
      have hnone := hquiet e he
      rw [hclaim'] at hnone
      cases hnone

theorem Starts.mono {P P' : ClaimedDelivery → ℤ → Prop} {before after : List (ClaimedDelivery × ℤ)}
    (h : Starts P before trace after) (hP : ∀ claim instant, P claim instant → P' claim instant) :
    Starts P' before trace after :=
  h.imp_right fun ⟨claim, instant, hclaim, hrest⟩ => ⟨claim, instant, hP claim instant hclaim, hrest⟩

theorem starts_claimed {claim : ClaimedDelivery} {startedAt : ℤ}
    {authorization : Except GmailDeliveryError Unit} {outcome : Option (Except GmailOutboxError DeliveryTickOutcome)}
    (h : Execution (TimedAnswer timing w) (deliverClaimed claim startedAt authorization) s trace outcome t) :
    Starts (fun claim' instant => claim' = claim ∧ instant = s.clock + timing.load) s.started trace t.started := by
  obtain ⟨rfl, -, rfl⟩ | ⟨loaded, u, rest, hloaded, rfl, hrest⟩ := Execution.perform_bind h
  · exact starts_nil _ _
  have hstarted : u.started = s.started := hloaded.started.trans (List.append_nil _)
  have hclock : u.clock = s.clock + timing.load := hloaded.clock
  rw [← hstarted, ← hclock]
  refine .cons rfl ?_
  rcases loaded with error | _
  · exact starts_of_quiet hrest
      (.perform_bind rfl fun _ => .perform_bind rfl fun _ => asks_completed fun _ => trivial) _
  · exact starts_delivery authorization hrest

/-- **One delivery starts after its load**, for a claim whose row was updated by the deadline. -/
theorem starts_deliverOne {outcome : Option (Except GmailOutboxError DeliveryTickOutcome)}
    (h : Execution (TimedAnswer timing w) deliverOne s trace outcome t) :
    Starts (StartsAfterLoad timing (updatedAt timing s.clock)) s.started trace t.started := by
  obtain ⟨rfl, -, rfl⟩ | ⟨startedAt, s₁, rest, hnow, rfl, h₁⟩ := Execution.perform_bind h
  · exact starts_nil _ _
  have hstarted₁ : s₁.started = s.started := hnow.started.trans (List.append_nil _)
  rw [← hstarted₁]
  refine .cons rfl ?_
  obtain ⟨rfl, -, rfl⟩ | ⟨probed, s₂, rest, hprobed, rfl, h₂⟩ := Execution.perform_bind h₁
  · exact starts_nil _ _
  have hstarted₂ : s₂.started = s₁.started := hprobed.started.trans (List.append_nil _)
  rw [← hstarted₂]
  refine .cons rfl ?_
  match probed, h₂ with
  | .error _, h₂ => exact starts_of_quiet h₂ trivial _
  | .ok false, h₂ => exact starts_of_quiet h₂ trivial _
  | .ok true, h₂ =>
    obtain ⟨rfl, -, rfl⟩ | ⟨authorization, s₃, rest, hauthorized, rfl, h₃⟩ := Execution.perform_bind h₂
    · exact starts_nil _ _
    have hstarted₃ : s₃.started = s₂.started := hauthorized.started.trans (List.append_nil _)
    rw [← hstarted₃]
    refine .cons rfl ?_
    obtain ⟨rfl, -, rfl⟩ | ⟨answer, s₄, rest, hclaim, rfl, h₄⟩ := Execution.perform_bind h₃
    · exact starts_nil _ _
    have hstarted₄ : s₄.started = s₃.started := hclaim.started.trans (List.append_nil _)
    rw [← hstarted₄]
    refine .cons rfl ?_
    match answer, hclaim, h₄ with
    | .error _, _, h₄ => exact starts_of_quiet h₄ trivial _
    | .ok none, _, h₄ => exact starts_of_quiet h₄ trivial _
    | .ok (some claim), hclaim, h₄ =>
      have hupdated : s₃.clock + timing.update = updatedAt timing s.clock := by
        rw [hauthorized.clock, hprobed.clock, hnow.clock]
        rfl
      refine (starts_claimed h₄).mono fun claim' instant => ?_
      rintro ⟨rfl, rfl⟩
      refine ⟨hupdated ▸ hclaim.allowed, ?_⟩
      have hclock : s₄.clock = s₃.clock + (timing.update + timing.claimed : ℕ) := hclaim.clock
      rw [hclock, ← hupdated]
      push_cast
      ring

end Runs

/-- **A delivery starts by the deadline exactly when it is loaded in time.** In every run of a delivery, complete
or not, and for any durations:

* the row of a delivered claim was updated by the deadline of its batch, however long the probe and the refresh
  took, and the delivery starts after the rest of the claim and the load;
* so it starts by the deadline if and only if these two fit into the time that was left at the update. -/
theorem delivery_starts_by_deadline {timing : Timing} {w : W} {s t : TimedMail W} {trace : TimedTrace}
    {outcome : Option (Except GmailOutboxError DeliveryTickOutcome)}
    (h : Execution (TimedAnswer timing w) deliverOne s trace outcome t) (hs : s.started = []) :
    (∀ start ∈ t.started, updatedAt timing s.clock ≤ start.1.deadlineAt ∧
      start.2 = updatedAt timing s.clock + timing.claimed + timing.load) ∧
    ((∀ start ∈ t.started, start.2 ≤ start.1.deadlineAt) ↔
      ∀ e ∈ trace, ∀ claim, e.1 = .prepareMessage claim →
        (timing.claimed + timing.load : ℤ) ≤ claim.deadlineAt - updatedAt timing s.clock) := by
  have hstarts := starts_deliverOne h
  rw [hs] at hstarts
  obtain ⟨hnone, hquiet⟩ | ⟨claim, instant, ⟨hupdated, rfl⟩, hone, ⟨e, he, hprepare⟩, honly⟩ := hstarts
  · rw [hnone]
    refine ⟨List.forall_mem_nil _, iff_of_true (List.forall_mem_nil _) fun e he claim hclaim => ?_⟩
    have hprepare := hquiet e he
    rw [hclaim] at hprepare
    cases hprepare
  · rw [hone, List.nil_append]
    simp only [List.mem_singleton, forall_eq]
    refine ⟨⟨hupdated, trivial⟩, fun hstart e' he' claim' hclaim' => ?_, fun hfits => ?_⟩
    · rw [honly e' he' claim' hclaim']
      omega
    · have hleft := hfits e he claim hprepare
      omega

/-- Everything at once but the load. -/
def loadTakes (load : ℕ) : Timing := ⟨0, 0, 0, 0, 0, load, 0⟩

section Witness

variable {load : ℕ} {w : W} {world world' : MailWorld W} {clock : ℤ}

theorem TimedAnswer.at_once {c : MailCall} {answer : c.Answer} (h : mailAnswers w world c answer world')
    (hduration : (loadTakes load).duration c = 0) (hstarted : startedBy clock c = [])
    (hallowed : clockAllows (loadTakes load) clock c answer) :
    TimedAnswer (loadTakes load) w ⟨world, clock, []⟩ c answer ⟨world', clock, []⟩ := by
  refine ⟨h, ?_, hallowed, ?_⟩
  · rw [hduration, Nat.cast_zero, add_zero]
  · rw [hstarted, List.append_nil]

theorem exists_started {claim : ClaimedDelivery} (hnow : mailAnswers w world .now clock world)
    (hprobe : mailAnswers w world (.hasReady clock) (.ok true) world)
    (hrefresh : mailAnswers w world .authorize (.ok ()) world)
    (hclaim : mailAnswers w world (.claim clock) (.ok (some claim)) world') (hdeadline : clock ≤ claim.deadlineAt)
    (hload : mailAnswers w world' (.loadArtifact claim) (.ok ()) world')
    (hprepare : mailAnswers w world' (.prepareMessage claim) (.ok ()) world') :
    ∃ trace t, Execution (TimedAnswer (loadTakes load) w) deliverOne ⟨world, clock, []⟩ trace
      (none : Option (Except GmailOutboxError DeliveryTickOutcome)) t ∧ t.started = [(claim, clock + load)] := by
  have hallowed : clock + (0 : ℕ) ≤ claim.deadlineAt := by rwa [Nat.cast_zero, add_zero]
  have hloaded : TimedAnswer (loadTakes load) w ⟨world', clock, []⟩ (.loadArtifact claim) (.ok ())
      ⟨world', clock + load, []⟩ := ⟨hload, rfl, trivial, rfl⟩
  have hprepared : TimedAnswer (loadTakes load) w ⟨world', clock + load, []⟩ (.prepareMessage claim) (.ok ())
      ⟨world', clock + load, [(claim, clock + load)]⟩ := ⟨hprepare, (add_zero _).symm, trivial, rfl⟩
  refine Execution.exists_call (.at_once hnow rfl rfl ⟨le_rfl, le_add_of_nonneg_right le_rfl⟩) ?_
  refine Execution.exists_call (.at_once hprobe rfl rfl trivial) ?_
  refine Execution.exists_call (.at_once hrefresh rfl rfl trivial) ?_
  refine Execution.exists_call (.at_once hclaim rfl rfl hallowed) ?_
  exact Execution.exists_call hloaded (Execution.exists_call hprepared ⟨_, _, .stop, rfl⟩)

theorem exists_atNine (load : ℕ) : ∃ trace t, Execution (TimedAnswer (loadTakes load) ()) deliverOne
    ⟨⟨fourAttempts, []⟩, localHour 20000 9, []⟩ trace
      (none : Option (Except GmailOutboxError DeliveryTickOutcome)) t ∧
        t.started = [(fifthClaim, localHour 20000 9 + load)] :=
  exists_started rfl (probe_failedAttempts (by decide)) rfl (claim_failedAttempts (by decide)) (by decide) rfl rfl

end Witness

/-- A load of six hours ends after the deadline, and the delivery starts. -/
theorem long_load_starts_late : ∃ (trace : TimedTrace) (t : TimedMail Unit),
    Execution (TimedAnswer (loadTakes (6 * 3600 * 10 ^ 9)) ()) deliverOne
      ⟨⟨fourAttempts, []⟩, localHour 20000 9, []⟩ trace
      (none : Option (Except GmailOutboxError DeliveryTickOutcome)) t ∧
    ∃ start ∈ t.started, start.1.deadlineAt < start.2 := by
  obtain ⟨trace, t, hrun, hstarted⟩ := exists_atNine (6 * 3600 * 10 ^ 9)
  refine ⟨trace, t, hrun, _, hstarted ▸ List.mem_singleton_self _, ?_⟩
  decide

/-- A load of one hour fits. -/
theorem delivery_starts_by_deadline_at_nine : ∃ (trace : TimedTrace) (t : TimedMail Unit),
    Execution (TimedAnswer (loadTakes (3600 * 10 ^ 9)) ()) deliverOne
      ⟨⟨fourAttempts, []⟩, localHour 20000 9, []⟩ trace
      (none : Option (Except GmailOutboxError DeliveryTickOutcome)) t ∧
    t.started ≠ [] ∧ (∀ start ∈ t.started, start.2 ≤ start.1.deadlineAt) ∧
    ∀ e ∈ trace, ∀ claim, e.1 = .prepareMessage claim →
      ((0 : ℕ) + (3600 * 10 ^ 9 : ℕ) : ℤ) ≤ claim.deadlineAt -
        updatedAt (loadTakes (3600 * 10 ^ 9)) (localHour 20000 9) := by
  obtain ⟨trace, t, hrun, hstarted⟩ := exists_atNine (3600 * 10 ^ 9)
  have htime : ∀ start ∈ t.started, start.2 ≤ start.1.deadlineAt := by
    rw [hstarted]
    simp only [List.mem_singleton, forall_eq]
    decide
  refine ⟨trace, t, hrun, by simp [hstarted], htime, ?_⟩
  exact (delivery_starts_by_deadline hrun rfl).2.1 htime

end AdsControl.Reporting.Outbox
