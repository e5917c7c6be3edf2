import AdsControl.Lib.History
import AdsControl.Wb.Corridor
import AdsControl.Wb.FileExecutor
import AdsControl.Wb.Protocol

/-!
# The protocol of the file-backed executor

Cycles of one policy run one after another on one directory. A cycle may end anywhere, a save may fail
with or without replacing the file, and the marketplace may answer anything. The log records the state
at the start of each cycle, the reservations, the requests and the confirmed actions.

* `fileAnswers`: what files, marketplace and write client may answer;
* `Reflects`: what a state says about the history;
* **`file_executor_runs`**: the limits and the order of writes along every sequence of cycles.
-/

namespace AdsControl.Wb

open Fallible Interaction History FileCall

/-! ## The world -/

/-- What a cycle did. -/
inductive FileEvent
  | started (stored : Option ExecutionState)
  | reserved (pending : PendingAction)
  | sent (pending : PendingAction)
  | confirmed (pending : PendingAction)
  deriving DecidableEq

/-- The directory: the state file and the instants of the history snapshots, with the instant of the
last cycle and the log. -/
structure FileWorld where
  file : Option ExecutionState
  snapshots : Set ℤ
  clock : ℤ
  log : List FileEvent

/-- Add an event. -/
def FileWorld.record (s : FileWorld) (event : FileEvent) : FileWorld :=
  { s with log := s.log ++ [event] }

/-- An instant was observed. -/
def FileWorld.stamp (s : FileWorld) (observedAt : ℤ) : FileWorld :=
  { s with snapshots := insert observedAt s.snapshots }

/-- What a save shows: a reservation, or the confirmation of the action that was stored. -/
def saveEvents (file : Option ExecutionState) (state : ExecutionState) :
    WbAutomationExecutionOutcome → List FileEvent
  | .writeSentReconciliationRequired => state.pending.toList.map .reserved
  | .reconciled => (file.bind ExecutionState.pending).toList.map .confirmed
  | _ => []

/-- The state file is replaced. -/
def FileWorld.save (s : FileWorld) (outcome : WbAutomationExecutionOutcome) (state : ExecutionState) :
    FileWorld :=
  { s with file := some state, log := s.log ++ saveEvents s.file state outcome }

/-- What the commands may answer, and the world they leave. The instants of the cycles never run
backwards; a snapshot is a new file named by its instant. -/
def fileAnswers (s : FileWorld) : (c : FileCall) → c.Answer → FileWorld → Prop
  | .observedAt, instant, t => s.clock ≤ instant ∧ t = { s with clock := instant }
  | .tryAcquireLease, .ok true, t => t = s.record (.started s.file)
  | .tryAcquireLease, _, t => t = s
  | .readStateFile, answer, t => t = s ∧ (answer = .ok s.file ∨ ∃ e, answer = .error e)
  | .observe _, _, t => t = s
  | .persistSnapshot snapshot, .ok (), t =>
      snapshot.observation.observedAt ∉ s.snapshots ∧ t = s.stamp snapshot.observation.observedAt
  | .persistSnapshot snapshot, .error _, t => t = s ∨ t = s.stamp snapshot.observation.observedAt
  | .saveExecutionState state outcome, answer, t =>
      Transaction (fun _ : Unit => .ok (state, ())) (s.save outcome) s answer t
  | .prepareWrite _, answer, t =>
      t = s ∧ ∀ error, answer = .error error → error.outcomeKind = .definiteFailure
  | .admitWrite _, answer, t =>
      t = s ∧ ∀ error, answer = .error error → error.outcomeKind = .definiteFailure
  | .send pending, answer, t =>
      t = s.record (.sent pending) ∧ ∀ error, answer = .error error → error.outcomeKind = .ambiguous

/-! ## What the log says -/

/-- The action changes bids. -/
def PendingAction.isBidChange (pending : PendingAction) : Bool :=
  match pending.kind with
  | .changeBids _ => true
  | _ => false

/-- The business date of a reservation. -/
def PendingAction.date (pending : PendingAction) : ℤ := wbAutomationBusinessDate pending.reservedAt

/-- An action was reserved on a day. -/
def FileEvent.isReservedOn (day : ℤ) : FileEvent → Bool
  | reserved pending => pending.date == day
  | _ => false

/-- A change of bids was reserved on a day. -/
def FileEvent.isBidReservedOn (day : ℤ) : FileEvent → Bool
  | reserved pending => pending.isBidChange && pending.date == day
  | _ => false

/-- A pause was confirmed. -/
def FileEvent.isConfirmedPause : FileEvent → Bool
  | confirmed pending => pending.kind == .pauseCampaignForDailyCap
  | _ => false

/-- A cycle started. -/
def FileEvent.isStarted : FileEvent → Bool
  | started _ => true
  | _ => false

/-- No pending action and no incident is stored. -/
def Clean (stored : Option ExecutionState) : Prop :=
  ∀ state ∈ stored, state.pending = none ∧ state.incidentClass = none

/-- The log ends with a cycle that started from `stored` and showed `shown`. -/
def InCycle (log : List FileEvent) (stored : Option ExecutionState) (shown : List FileEvent) : Prop :=
  ∃ before, log = before ++ .started stored :: shown ∧ ∀ event ∈ shown, ¬ event.isStarted

/-- The last confirmed pause was reserved on `day`. -/
def PausedOn (log : List FileEvent) (day : ℤ) : Prop :=
  ∃ before pending after, log = before ++ .confirmed pending :: after ∧
    pending.kind = .pauseCampaignForDailyCap ∧ pending.date = day ∧
    ∀ event ∈ after, ¬ event.isConfirmedPause

/-- What justifies an event. -/
def FileJustified (policy : WbAutomationPolicy) (log : List FileEvent) : FileEvent → Prop
  | .started _ => True
  | .reserved pending => .reserved pending ∉ log ∧ (pending.isBidChange →
      log.countP (FileEvent.isReservedOn pending.date) < policy.maxActionsPerDay ∧
      ∀ earlier, .reserved earlier ∈ log →
        earlier.reservedAt + seconds policy.cooldownSeconds ≤ pending.reservedAt)
  | .sent pending => .sent pending ∉ log ∧ ∃ stored shown, InCycle log stored shown ∧ Clean stored ∧
      .reserved pending ∈ shown
  | .confirmed pending => .reserved pending ∈ log

/-- What a state says about the history. -/
structure Reflects (log : List FileEvent) (state : ExecutionState) : Prop where
  counted : state.actionsToday = log.countP (FileEvent.isReservedOn state.businessDate)
  latest : ∀ pending, .reserved pending ∈ log → pending.date ≤ state.businessDate ∧
    ∃ last ∈ state.lastActionAt, pending.reservedAt ≤ last
  pending : ∀ pending ∈ state.pending, .reserved pending ∈ log
  paused : ∀ day ∈ state.pausedForDailyCapOn, PausedOn log day

/-- What holds in every reachable state. -/
structure FileInv (policy : WbAutomationPolicy) (s : FileWorld) : Prop where
  orderly : Orderly (FileJustified policy) s.log
  stamped : ∀ pending, .reserved pending ∈ s.log → pending.reservedAt ∈ s.snapshots
  file : ∀ state ∈ s.file, Reflects s.log state ∧ state.businessDate ≤ wbAutomationBusinessDate s.clock
  absent : s.file = none → ∀ pending, .reserved pending ∉ s.log

/-- The incident of the file. -/
def FileWorld.incident (s : FileWorld) : Option String := s.file.bind ExecutionState.incidentClass

/-- An incident never disappears. -/
def FileEvolves (s t : FileWorld) : Prop := ∀ c ∈ s.incident, c ∈ t.incident

/-- The file as a state of one worker. -/
def fileShared (policy : WbAutomationPolicy) : Shared FileWorld Unit FileCall FileCall.Answer :=
  .alone fileAnswers (FileInv policy) FileEvolves (fun _ _ h => h) fun _ _ _ h h' c hc => h' c (h c hc)

/-! ## States and their history -/

section Reflect

variable {log : List FileEvent} {state : ExecutionState} {policy : WbAutomationPolicy} {s : FileWorld}

theorem PausedOn.append {day : ℤ} (h : PausedOn log day) {rest : List FileEvent}
    (hrest : ∀ event ∈ rest, ¬ event.isConfirmedPause) : PausedOn (log ++ rest) day := by
  obtain ⟨before, pending, after, rfl, hkind, hday, hafter⟩ := h
  refine ⟨before, pending, after ++ rest, by simp, hkind, hday, fun event hmem => ?_⟩
  rcases List.mem_append.mp hmem with hmem | hmem
  · exact hafter event hmem
  · exact hrest event hmem

theorem Reflects.append_quiet (h : Reflects log state) {event : FileEvent}
    (hreserved : ∀ pending, event ≠ .reserved pending) (hconfirmed : ¬ event.isConfirmedPause) :
    Reflects (log ++ [event]) state := by
  have hmem : ∀ pending, .reserved pending ∈ log ++ [event] ↔ .reserved pending ∈ log := by
    intro pending
    simp [(hreserved pending).symm]
  refine ⟨?_, fun pending hp => h.latest pending ((hmem pending).mp hp),
    fun pending hp => (hmem pending).mpr (h.pending pending hp),
    fun day hday => (h.paused day hday).append (by simpa using hconfirmed)⟩
  have hquiet : event.isReservedOn state.businessDate = false := by
    cases event with
    | reserved pending => exact absurd rfl (hreserved pending)
    | _ => rfl
  rw [h.counted, List.countP_append, List.countP_singleton, hquiet]
  simp

theorem Reflects.rollover (h : Reflects log state) {businessDate : ℤ}
    (hdate : state.businessDate ≤ businessDate) : Reflects log (state.rollover businessDate) := by
  unfold ExecutionState.rollover
  split_ifs with hne
  · refine ⟨?_, fun pending hp => ?_, h.pending, h.paused⟩
    · symm
      rw [List.countP_eq_zero]
      intro event hmem
      cases event with
      | reserved pending =>
        have hle := (h.latest pending hmem).1
        simp only [FileEvent.isReservedOn, beq_iff_eq]
        omega
      | _ => simp [FileEvent.isReservedOn]
    · obtain ⟨hle, hlast⟩ := h.latest pending hp
      exact ⟨hle.trans hdate, hlast⟩
  · exact h

/-- What a cycle holds after reading the file. -/
structure Loaded (s : FileWorld) (state : ExecutionState) : Prop where
  reflects : Reflects s.log state
  today : state.businessDate = wbAutomationBusinessDate s.clock
  incident : state.incidentClass = s.incident
  pending : state.pending = s.file.bind ExecutionState.pending

theorem ExecutionState.rollover_businessDate (state : ExecutionState) (businessDate : ℤ) :
    (state.rollover businessDate).businessDate = businessDate := by
  unfold rollover
  split_ifs with h
  · rfl
  · exact not_not.mp h

theorem ExecutionState.rollover_kept (state : ExecutionState) (businessDate : ℤ) :
    (state.rollover businessDate).incidentClass = state.incidentClass ∧
      (state.rollover businessDate).pending = state.pending := by
  unfold rollover
  split_ifs <;> exact ⟨rfl, rfl⟩

theorem FileInv.loaded (hs : FileInv policy s) {policySha256 accountId : String} {campaignId : ℕ}
    {allowed : Bool} (h : loadExecutionState s.file policySha256 accountId campaignId
      (wbAutomationBusinessDate s.clock) allowed = .ok state) :
    Loaded s (state.rollover (wbAutomationBusinessDate s.clock)) := by
  obtain ⟨hincident, hpending⟩ := state.rollover_kept (wbAutomationBusinessDate s.clock)
  have key : Reflects s.log state ∧ state.businessDate ≤ wbAutomationBusinessDate s.clock ∧
      state.incidentClass = s.incident ∧ state.pending = s.file.bind ExecutionState.pending := by
    cases hfile : s.file with
    | none =>
      rw [hfile, loadExecutionState] at h
      cases h
      refine ⟨⟨?_, fun pending hp => absurd hp (hs.absent hfile pending), by simp, by simp⟩, le_rfl,
        by simp [FileWorld.incident, hfile], rfl⟩
      symm
      rw [List.countP_eq_zero]
      intro event hmem
      cases event with
      | reserved pending => exact absurd hmem (hs.absent hfile pending)
      | _ => simp [FileEvent.isReservedOn]
    | some stored =>
      obtain ⟨hreflects, hdate⟩ := hs.file stored hfile
      rw [hfile] at h
      simp only [loadExecutionState, ok_of_bind, ensure_eq_ok] at h
      obtain ⟨-, -, h⟩ := h
      split_ifs at h
      · simp only [ok_of_bind, ok_of_pure, ensure_eq_ok] at h
        obtain ⟨-, -, rfl⟩ := h
        exact ⟨⟨hreflects.counted, hreflects.latest, hreflects.pending, hreflects.paused⟩, hdate,
          by simp [FileWorld.incident, hfile], rfl⟩
      · rw [ok_of_pure] at h
        subst h
        exact ⟨hreflects, hdate, by simp [FileWorld.incident, hfile], rfl⟩
  obtain ⟨hreflects, hdate, hincident', hpending'⟩ := key
  exact ⟨hreflects.rollover hdate, state.rollover_businessDate _, hincident.trans hincident',
    hpending.trans hpending'⟩

theorem FileInv.save (hs : FileInv policy s) {outcome : WbAutomationExecutionOutcome}
    (horderly : Orderly (FileJustified policy) (s.save outcome state).log)
    (hstamped : ∀ pending, .reserved pending ∈ saveEvents s.file state outcome →
      pending.reservedAt ∈ s.snapshots)
    (hreflects : Reflects (s.save outcome state).log state)
    (htoday : state.businessDate = wbAutomationBusinessDate s.clock) :
    FileInv policy (s.save outcome state) := by
  refine ⟨horderly, fun pending hp => ?_, fun state' hstate => ?_, fun h => (nomatch h)⟩
  · rcases List.mem_append.mp hp with hp | hp
    · exact hs.stamped pending hp
    · exact hstamped pending hp
  · cases hstate
    exact ⟨hreflects, htoday.le⟩

theorem FileInv.save_quiet (hs : FileInv policy s) {outcome : WbAutomationExecutionOutcome}
    (hquiet : saveEvents s.file state outcome = []) (hreflects : Reflects s.log state)
    (htoday : state.businessDate = wbAutomationBusinessDate s.clock) :
    FileInv policy (s.save outcome state) := by
  have hlog : (s.save outcome state).log = s.log := by simp [FileWorld.save, hquiet]
  refine hs.save (by rw [hlog]; exact hs.orderly) ?_ (by rw [hlog]; exact hreflects) htoday
  rw [hquiet]
  simp

end Reflect

/-! ## The branches of a cycle -/

section Branches

variable {policy : WbAutomationPolicy} {s : FileWorld} {state : ExecutionState}
  {observation : WbAutomationObservation} {pending : PendingAction}

theorem limits_of_ungated (h : campaignGate policy observation = none) :
    observation.actionsToday < policy.maxActionsPerDay ∧
      ∀ last ∈ observation.lastActionAt,
        last + seconds policy.cooldownSeconds ≤ observation.observedAt := by
  revert h
  fun_cases campaignGate policy observation
  all_goals intro h; cases h
  rename_i hquota hcooldown
  refine ⟨not_le.mp hquota, fun last hlast => ?_⟩
  rw [Option.mem_def.mp hlast, Option.any_some, decide_eq_true_eq, not_lt] at hcooldown
  exact hcooldown

/-- **A bid change passed the quota and the cooldown.** -/
theorem gates_of_bidChange {decision : WbAutomationDecision} {minBid : ℕ} {reservedAt : ℤ}
    (h : evaluateWbAutomation policy observation = .ok decision)
    (hpending : pendingFromDecision decision.action observation minBid reservedAt = some pending)
    (hbid : pending.isBidChange) :
    observation.actionsToday < policy.maxActionsPerDay ∧
      ∀ last ∈ observation.lastActionAt,
        last + seconds policy.cooldownSeconds ≤ observation.observedAt := by
  obtain ⟨-, -, -, ⟨hgate, -⟩ | ⟨hgate, -⟩⟩ := evaluate_cases h
  · -- a gate that fires pauses or holds
    exfalso
    obtain haction | ⟨reason, haction, -⟩ := campaignGate_kind hgate
    · rw [haction] at hpending
      cases hpending
      cases hbid
    · rw [haction] at hpending
      cases hpending
  · exact limits_of_ungated hgate

/-- The state with a reservation. -/
def ExecutionState.withReservation (state : ExecutionState) (actionsToday : ℕ)
    (pending : PendingAction) : ExecutionState :=
  { state with
    actionsToday := actionsToday
    lastActionAt := some pending.reservedAt
    pending := some pending }

theorem Loaded.reserve (h : Loaded s state)
    (hclock : pending.reservedAt = s.clock) (hold : ∀ last ∈ state.lastActionAt, last ≤ s.clock) :
    Reflects (s.log ++ [.reserved pending]) (state.withReservation (state.actionsToday + 1) pending) := by
  have hdate : pending.date = state.businessDate := by rw [h.today, ← hclock]; rfl
  refine ⟨?_, fun earlier hearlier => ?_, fun p hp => ?_, fun day hday => ?_⟩
  · rw [List.countP_append, List.countP_singleton]
    simp only [ExecutionState.withReservation, FileEvent.isReservedOn, hdate, BEq.rfl, if_true]
    rw [h.reflects.counted]
  · refine ⟨?_, pending.reservedAt, rfl, ?_⟩
    · rcases List.mem_append.mp hearlier with hearlier | hearlier
      · exact (h.reflects.latest earlier hearlier).1
      · cases List.mem_singleton.mp hearlier
        exact hdate.le
    · rcases List.mem_append.mp hearlier with hearlier | hearlier
      · obtain ⟨-, last, hlast, hle⟩ := h.reflects.latest earlier hearlier
        rw [hclock]
        exact hle.trans (hold last hlast)
      · cases List.mem_singleton.mp hearlier
        exact le_rfl
  · cases hp
    simp
  · exact (h.reflects.paused day hday).append (by simp [FileEvent.isConfirmedPause])

/-- A reconciled action is confirmed and leaves the slot. -/
theorem Loaded.reconcile (h : Loaded s state) (hs : FileInv policy s)
    (hpending : state.pending = some pending) :
    FileInv policy (s.save (reconcilePending observation state pending).1
      (reconcilePending observation state pending).2) := by
  have hreserved := h.reflects.pending pending hpending
  unfold reconcilePending
  split_ifs with hvisible hgrace
  · have hevents : ∀ state', saveEvents s.file state' .reconciled = [.confirmed pending] := by
      intro state'
      rw [saveEvents, ← h.pending, hpending]
      rfl
    have hmem : ∀ p, .reserved p ∈ s.log ++ [.confirmed pending] ↔ .reserved p ∈ s.log := by simp
    refine hs.save ?_ ?_ ?_ h.today
    · rw [FileWorld.save, hevents]
      exact hs.orderly.snoc hreserved
    · rw [hevents]
      simp
    · rw [FileWorld.save, hevents]
      refine ⟨?_, fun p hp => h.reflects.latest p ((hmem p).mp hp), by simp, fun day hday => ?_⟩
      · rw [List.countP_append, List.countP_singleton]
        simp only [FileEvent.isReservedOn, Bool.false_eq_true, if_false, Nat.add_zero]
        exact h.reflects.counted
      · simp only [confirmedPauseDate] at hday
        split at hday
        · rename_i hkind
          exact ⟨s.log, pending, [], rfl, hkind, Option.some.inj hday, by simp⟩
        · cases hday
        · rename_i hkind
          exact (h.reflects.paused day hday).append (by simp [FileEvent.isConfirmedPause, hkind])
  · exact hs.save_quiet rfl h.reflects h.today
  · exact hs.save_quiet rfl ⟨h.reflects.counted, h.reflects.latest, h.reflects.pending, h.reflects.paused⟩
      h.today

/-! ## Safety of the programs -/

theorem evolves_save {outcome : WbAutomationExecutionOutcome}
    (h : ∀ c ∈ s.incident, c ∈ state.incidentClass) : FileEvolves s (s.save outcome state) := h

theorem safe_saveState {outcome : WbAutomationExecutionOutcome}
    {f : Unit → FileProg WbAutomationExecutionOutcome}
    (hinv : FileInv policy s → FileInv policy (s.save outcome state))
    (hincident : ∀ c ∈ s.incident, c ∈ state.incidentClass)
    (hf : FileInv policy (s.save outcome state) →
      Safe (fileShared policy) () (f ()) (s.save outcome state)) :
    Safe (fileShared policy) () (saveState state outcome >>= f) s := by
  refine wp_alone_bind fun hs answer t ht => ?_
  refine ⟨?_, ?_, ?_⟩
  · exact Transaction.elim ht hs fun _ _ _ h => by cases h; exact hinv hs
  · refine Transaction.elim (P := FileEvolves s) ht (fun _ h => h) fun _ _ _ h => ?_
    cases h
    exact evolves_save hincident
  · show Safe (fileShared policy) () (Prog.ofExcept answer >>= f) t
    refine safe_ofExcept_bind fun a ha => ?_
    subst ha
    obtain ⟨-, d, h, rfl⟩ := Transaction.ok ht
    cases h
    exact hf (hinv hs)

/-- A request that is ready leaves at most once. -/
theorem FileInv.record_sent (hs : FileInv policy s) (h : FileJustified policy s.log (.sent pending)) :
    FileInv policy (s.record (.sent pending)) := by
  have hmem : ∀ p, .reserved p ∈ s.log ++ [.sent pending] ↔ .reserved p ∈ s.log := by simp
  refine ⟨hs.orderly.snoc h, fun p hp => hs.stamped p ((hmem p).mp hp), fun state hstate => ?_,
    fun hfile p hp => hs.absent hfile p ((hmem p).mp hp)⟩
  obtain ⟨hreflects, hdate⟩ := hs.file state hstate
  exact ⟨hreflects.append_quiet (by simp) (by simp [FileEvent.isConfirmedPause]), hdate⟩

theorem sendPending_wp (hready : FileJustified policy s.log (.sent pending)) :
    wp (fileShared policy) () (sendPending pending)
      (fun _ t => t = s ∨ t = s.record (.sent pending)) s := by
  have hwrite : wp (fileShared policy) () (writeWithPermit (ask (prepareWrite pending))
      (pendingPermit pending) (ask (admitWrite pending)) (ask (send pending)))
      (fun _ t => t = s ∨ t = s.record (.sent pending)) s := by
    refine wp_alone_bind fun hs prepared t ht => ?_
    obtain ⟨rfl, -⟩ := ht
    refine ⟨hs, fun _ h => h, ?_⟩
    cases prepared with
    | error error => exact wp_alone_pure (.inl rfl)
    | ok _ =>
      refine wp_alone_bind fun hs stored t ht => ?_
      obtain ⟨rfl, -⟩ := ht
      refine ⟨hs, fun _ h => h, ?_⟩
      generalize (stored.bind fun stored => verifyPendingPermit stored pending) = permit
      cases permit with
      | error error => exact wp_alone_pure (.inl rfl)
      | ok _ =>
        refine wp_alone_bind fun hs admitted t ht => ?_
        obtain ⟨rfl, -⟩ := ht
        refine ⟨hs, fun _ h => h, ?_⟩
        cases admitted with
        | error error => exact wp_alone_pure (.inl rfl)
        | ok _ =>
          refine wp_alone_bind fun hs answer u hu => ?_
          obtain ⟨rfl, -⟩ := hu
          refine ⟨hs.record_sent hready, fun _ h => h, ?_⟩
          cases answer with
          | error error => exact wp_alone_pure (.inr rfl)
          | ok _ => exact wp_alone_pure (.inr rfl)
  refine wp_bind (wp_mono hwrite fun result t ht => ?_)
  cases result with
  | error error => exact ht
  | ok result => exact wp_alone_ofExcept ht

/-- A cycle with a persisted snapshot: nothing has happened since it started. -/
structure Acting (s : FileWorld) (state : ExecutionState) (observation : WbAutomationObservation) :
    Prop where
  loaded : Loaded s state
  started : ∃ before, s.log = before ++ [.started s.file]
  stamped : s.clock ∈ s.snapshots
  fresh : ∀ pending, .reserved pending ∈ s.log → pending.reservedAt ≠ s.clock
  instant : observation.observedAt = s.clock
  actions : observation.actionsToday = state.actionsToday
  last : observation.lastActionAt = state.lastActionAt

theorem Acting.justified (h : Acting s state observation) {decision : WbAutomationDecision}
    (hdecision : evaluateWbAutomation policy observation = .ok decision) {minBid : ℕ}
    (hpending : pendingFromDecision decision.action observation minBid observation.observedAt =
      some pending) : FileJustified policy s.log (.reserved pending) := by
  have hclock : pending.reservedAt = s.clock := by
    rw [pendingFromDecision, Option.map_eq_some_iff] at hpending
    obtain ⟨kind, -, rfl⟩ := hpending
    exact h.instant
  have hdate : pending.date = state.businessDate := by
    rw [h.loaded.today, ← hclock]
    rfl
  refine ⟨fun hmem => h.fresh pending hmem hclock, fun hbid => ?_⟩
  obtain ⟨hquota, hcooldown⟩ := gates_of_bidChange hdecision hpending hbid
  rw [hdate, ← h.loaded.reflects.counted, ← h.actions]
  refine ⟨hquota, fun earlier hearlier => ?_⟩
  obtain ⟨-, last, hlast, hle⟩ := h.loaded.reflects.latest earlier hearlier
  rw [← h.last] at hlast
  calc earlier.reservedAt + seconds policy.cooldownSeconds
      ≤ last + seconds policy.cooldownSeconds := by omega
    _ ≤ observation.observedAt := hcooldown last hlast
    _ = pending.reservedAt := h.instant.trans hclock.symm

theorem FileInv.reserved_of_sent (hs : FileInv policy s) (h : .sent pending ∈ s.log) :
    .reserved pending ∈ s.log := by
  obtain ⟨before, after, hlog⟩ := List.append_of_mem h
  obtain ⟨-, stored, shown, ⟨start, rfl, -⟩, -, hmem⟩ := hs.orderly before _ after hlog
  rw [hlog]
  simp [hmem]

theorem reserveAndSend_safe (hs₀ : FileInv policy s) (h : Acting s state observation) (hincident : s.incident = none)
    (hfree : state.pending = none) (hclock : pending.reservedAt = s.clock)
    (hlast : ∀ last ∈ state.lastActionAt, last ≤ s.clock)
    (hjustified : FileJustified policy s.log (.reserved pending)) :
    Safe (fileShared policy) () (reserveAndSend state pending) s := by
  have hreflects := h.loaded.reserve hclock hlast
  have hnone : state.incidentClass = none := h.loaded.incident.trans hincident
  have hclean : Clean s.file := by
    intro stored hstored
    have hpending := h.loaded.pending
    rw [FileWorld.incident, Option.mem_def.mp hstored] at hincident
    rw [Option.mem_def.mp hstored, hfree] at hpending
    exact ⟨hpending.symm, hincident⟩
  refine safe_ofExcept_bind fun actionsToday hcount => ?_
  have hcount : actionsToday = state.actionsToday + 1 := by
    rw [context_eq_ok] at hcount
    exact (Machine.checkedAdd_eq_some.mp hcount).1
  subst hcount
  refine safe_saveState (fun hs => ?_) (by simp [hincident]) fun _ => ?_
  · exact hs.save (hs.orderly.snoc hjustified)
      (fun p hp => by cases List.mem_singleton.mp hp; rw [hclock]; exact h.stamped) hreflects h.loaded.today
  · have hready : FileJustified policy (s.log ++ [.reserved pending]) (.sent pending) := by
      obtain ⟨before, hbefore⟩ := h.started
      refine ⟨?_, s.file, [.reserved pending], ⟨before, by simp [hbefore], by simp [FileEvent.isStarted]⟩,
        hclean, by simp⟩
      intro hmem
      have hsent : .sent pending ∈ s.log := by simpa using hmem
      exact hjustified.1 (hs₀.reserved_of_sent hsent)
    refine safe_bind (wp_mono (sendPending_wp hready) fun _ t ht _ _ => ht) fun result t _ ht => ?_
    have hkept : Reflects t.log { state.withReservation (state.actionsToday + 1) pending with
        pending := none } := by
      have hdropped : Reflects (s.log ++ [.reserved pending])
          { state.withReservation (state.actionsToday + 1) pending with pending := none } :=
        ⟨hreflects.counted, hreflects.latest, by simp, hreflects.paused⟩
      rcases ht with rfl | rfl
      · exact hdropped
      · exact hdropped.append_quiet (by simp) (by simp [FileEvent.isConfirmedPause])
    have hworld : t.clock = s.clock ∧ t.incident = none := by
      rcases ht with rfl | rfl <;> exact ⟨rfl, hnone⟩
    split_ifs
    · refine safe_saveState (fun ht => ht.save_quiet rfl hkept ?_) (by simp [hworld.2])
        fun _ => wp_alone_pure trivial
      rw [hworld.1]
      exact h.loaded.today
    · exact wp_alone_pure trivial

theorem actOnDecision_safe (hs : FileInv policy s) {decision : WbAutomationDecision}
    (h : Acting s state observation) (hincident : s.incident = none) (hfree : state.pending = none)
    (hdecision : evaluateWbAutomation policy observation = .ok decision) :
    Safe (fileShared policy) () (actOnDecision policy state ⟨observation, decision⟩) s := by
  unfold actOnDecision
  split_ifs
  · refine safe_saveState (fun hs => hs.save_quiet rfl ?_ h.loaded.today) (by simp [hincident])
      fun _ => wp_alone_pure trivial
    exact ⟨h.loaded.reflects.counted, h.loaded.reflects.latest, h.loaded.reflects.pending,
      h.loaded.reflects.paused⟩
  · dsimp only
    split
    · exact safe_saveState (fun hs => hs.save_quiet rfl h.loaded.reflects h.loaded.today)
        (by simp [hincident]) fun _ => wp_alone_pure trivial
    · rename_i pending hpending
      have hclock : pending.reservedAt = s.clock := by
        rw [pendingFromDecision, Option.map_eq_some_iff] at hpending
        obtain ⟨kind, -, rfl⟩ := hpending
        exact h.instant
      refine reserveAndSend_safe hs h hincident hfree hclock (fun last hlast => ?_)
        (h.justified hdecision hpending)
      obtain ⟨-, _, hobserved, -⟩ := evaluate_cases hdecision
      rw [← h.instant]
      exact hobserved.lastAction_le last (h.last.trans hlast)

theorem actOnSnapshot_safe (hs : FileInv policy s) {decision : WbAutomationDecision}
    (h : Acting s state observation)
    (hdecision : evaluateWbAutomation policy observation = .ok decision) :
    Safe (fileShared policy) () (actOnSnapshot policy state ⟨observation, decision⟩) s := by
  unfold actOnSnapshot
  split_ifs with hlocked
  · refine safe_saveState (fun hs => hs.save_quiet rfl h.loaded.reflects h.loaded.today) (fun c hc => ?_)
      fun _ => wp_alone_pure trivial
    rw [h.loaded.incident]
    exact hc
  · have hnone : s.incident = none := by
      rw [← h.loaded.incident]
      simpa using hlocked
    cases hpending : state.pending with
    | some pending =>
      exact safe_saveState (fun hs => h.loaded.reconcile hs hpending) (by simp [hnone])
        fun _ => wp_alone_pure trivial
    | none => exact actOnDecision_safe hs h hnone hpending hdecision

theorem FileInv.record_started (hs : FileInv policy s) :
    FileInv policy (s.record (.started s.file)) := by
  have hmem : ∀ p, .reserved p ∈ s.log ++ [.started s.file] ↔ .reserved p ∈ s.log := by simp
  refine ⟨hs.orderly.snoc trivial, fun p hp => hs.stamped p ((hmem p).mp hp), fun state hstate => ?_,
    fun hfile p hp => hs.absent hfile p ((hmem p).mp hp)⟩
  obtain ⟨hreflects, hdate⟩ := hs.file state hstate
  exact ⟨hreflects.append_quiet (by simp) (by simp [FileEvent.isConfirmedPause]), hdate⟩

theorem FileInv.stamp (hs : FileInv policy s) (instant : ℤ) : FileInv policy (s.stamp instant) :=
  ⟨hs.orderly, fun p hp => Set.mem_insert_of_mem _ (hs.stamped p hp), hs.file, hs.absent⟩

theorem runOnce_safe (ex : FilePolicy) (s : FileWorld) :
    Safe (fileShared ex.policy) () (runOnce ex s.clock) s := by
  refine wp_alone_bind fun hs leased t ht => ?_
  match leased, ht with
  | .error e, ht =>
    cases ht
    exact ⟨hs, fun _ h => h, safe_ofExcept_bind fun a ha => (nomatch ha)⟩
  | .ok false, ht =>
    cases ht
    refine ⟨hs, fun _ h => h, safe_ofExcept_bind fun a ha => ?_⟩
    cases ha
    refine safe_ofExcept_bind fun u hu => ?_
    cases (ensure_eq_ok.mp hu)
  | .ok true, ht =>
    cases ht
    refine ⟨hs.record_started, fun _ h => h, safe_ofExcept_bind fun a ha => ?_⟩
    refine safe_ofExcept_bind fun _ _ => ?_
    refine wp_alone_bind fun hs stored u hu => ?_
    obtain ⟨rfl, hread⟩ := hu
    refine ⟨hs, fun _ h => h, safe_ofExcept_bind fun file hfile => safe_ofExcept_bind fun state hstate => ?_⟩
    have hloaded : Loaded (s.record (.started s.file)) (state.rollover (wbAutomationBusinessDate s.clock)) := by
      obtain hok | ⟨e, he⟩ := hread
      · rw [hok] at hfile
        cases hfile
        exact hs.loaded hstate
      · rw [he] at hfile
        cases hfile
    refine wp_alone_bind fun hs raw u hu => ?_
    cases hu
    refine ⟨hs, fun _ h => h, safe_ofExcept_bind fun raw _ => safe_ofExcept_bind fun decision hdecision => ?_⟩
    rw [ok_of_mapError] at hdecision
    refine wp_alone_bind fun hs persisted u hu => ?_
    match persisted, hu with
    | .error e, hu =>
      refine ⟨?_, ?_, safe_ofExcept_bind fun a ha => (nomatch ha)⟩
      · rcases hu with rfl | rfl
        · exact hs
        · exact hs.stamp _
      · rcases hu with rfl | rfl <;> exact fun _ h => h
    | .ok _, ⟨hfresh, hu⟩ =>
      cases hu
      refine ⟨hs.stamp _, fun _ h => h, safe_ofExcept_bind fun _ _ => ?_⟩
      refine actOnSnapshot_safe (hs.stamp _) ⟨?_, ⟨s.log, rfl⟩, Set.mem_insert _ _, fun p hp hclock => ?_,
        rfl, rfl, rfl⟩ hdecision
      · exact ⟨hloaded.reflects, hloaded.today, hloaded.incident, hloaded.pending⟩
      · have hstamp := hs.stamped p hp
        rw [hclock] at hstamp
        exact hfresh hstamp

theorem scheduledCycle_safe (ex : FilePolicy) :
    Safe (fileShared ex.policy) () (scheduledCycle ex) s := by
  refine wp_alone_bind fun hs instant t ht => ?_
  obtain ⟨hclock, rfl⟩ := ht
  have hinv : FileInv ex.policy { s with clock := instant } := by
    refine ⟨hs.orderly, hs.stamped, fun state hstate => ?_, hs.absent⟩
    obtain ⟨hreflects, hdate⟩ := hs.file state hstate
    exact ⟨hreflects, hdate.trans (dateIn_mono moscow hclock)⟩
  exact ⟨hinv, fun _ h => h, runOnce_safe ex { s with clock := instant }⟩

end Branches

/-! ## Every sequence of cycles -/

/-- Cycles of one policy, one after another, from a directory without a state file. -/
def fileSystem (ex : FilePolicy) : Transition.System
    (Pool FileWorld Unit FileCall FileCall.Answer String WbAutomationExecutionOutcome) :=
  Pool.system (fileShared ex.policy) (fun _ _ => False) (fun p => p = scheduledCycle ex)
    fun s => s.file = none ∧ s.log = []

theorem file_sound (ex : FilePolicy) : Pool.Sound (fileShared ex.policy) (fun _ _ => False)
    (fun p => p = scheduledCycle ex) where
  acts _ _ _ h := h.elim
  starts := by
    rintro p rfl ⟨⟩ s -
    exact scheduledCycle_safe ex

theorem fileInv_init {policy : WbAutomationPolicy} {s : FileWorld} (h : s.file = none ∧ s.log = []) :
    FileInv policy s := by
  refine ⟨?_, by simp [h.2], by simp [h.1], by simp [h.2]⟩
  rw [h.2]
  exact orderly_nil

section Runs

variable {ex : FilePolicy}
  {P : Pool FileWorld Unit FileCall FileCall.Answer String WbAutomationExecutionOutcome}

theorem file_ok (h : Transition.Reachable (fileSystem ex) P) : Pool.Ok (fileShared ex.policy) P :=
  Pool.safe (file_sound ex) (fun _ hinit => fileInv_init hinit) h

/-- **The file-backed executor along every sequence of cycles.** A request leaves only in a cycle that
started without a pending action or an incident and saved its reservation before, and only once. On a
business date at most the allowed number of bid changes is reserved, each after the cooldown of every
earlier reservation. The state counts the reservations of its date and knows the last confirmed pause.
An incident stays. -/
theorem file_executor_runs (h : Transition.Reachable (fileSystem ex) P) :
    (∀ before pending after, P.shared.log = before ++ .sent pending :: after →
      ∃ stored shown, InCycle before stored shown ∧ Clean stored ∧ .reserved pending ∈ shown) ∧
    (∀ pending, P.shared.log.count (.sent pending) ≤ 1) ∧
    (∀ P', Relation.ReflTransGen (fileSystem ex).step P P' → ∀ state ∈ P.shared.file,
      ∀ incident ∈ state.incidentClass, ∃ state' ∈ P'.shared.file, state'.incidentClass = some incident) ∧
    (∀ day, P.shared.log.countP (FileEvent.isBidReservedOn day) ≤ ex.policy.maxActionsPerDay) ∧
    (∀ before pending after, P.shared.log = before ++ .reserved pending :: after → pending.isBidChange →
      ∀ earlier, .reserved earlier ∈ before →
        earlier.reservedAt + seconds ex.policy.cooldownSeconds ≤ pending.reservedAt) ∧
    ∀ state ∈ P.shared.file,
      state.actionsToday = P.shared.log.countP (FileEvent.isReservedOn state.businessDate) ∧
      ∀ day ∈ state.pausedForDailyCapOn, PausedOn P.shared.log day := by
  have hok := file_ok h
  have hinv : FileInv ex.policy P.shared := hok.1
  refine ⟨fun before pending after hlog => ?_, fun pending => ?_, fun P' hrun state hstate c hc => ?_,
    fun day => ?_, fun before pending after hlog hbid => ?_, fun state hstate => ?_⟩
  · exact (hinv.orderly before _ after hlog).2
  · rw [List.count_eq_countP]
    refine hinv.orderly.countP_le_one fun before event hevent hsent event' hmem hsent' => ?_
    rw [beq_iff_eq] at hsent hsent'
    subst hsent hsent'
    exact hevent.1 hmem
  · have hevolves : FileEvolves P.shared P'.shared := Pool.evolves_of_run (file_sound ex) hok hrun
    have hkept := hevolves c (by rw [FileWorld.incident, Option.mem_def.mp hstate]; exact hc)
    rw [FileWorld.incident, Option.mem_def, Option.bind_eq_some_iff] at hkept
    exact hkept
  · refine hinv.orderly.countP_le fun before event hevent hbid => ?_
    cases event with
    | reserved pending =>
      simp only [FileEvent.isBidReservedOn, Bool.and_eq_true, beq_iff_eq] at hbid
      obtain ⟨hbid, rfl⟩ := hbid
      refine lt_of_le_of_lt (List.countP_mono_left fun event _ hevent => ?_) (hevent.2 hbid).1
      cases event with
      | reserved earlier =>
        simp only [FileEvent.isBidReservedOn, Bool.and_eq_true] at hevent
        exact hevent.2
      | _ => cases hevent
    | _ => cases hbid
  · exact ((hinv.orderly before _ after hlog).2 hbid).2
  · obtain ⟨hreflects, -⟩ := hinv.file state hstate
    exact ⟨hreflects.counted, hreflects.paused⟩

end Runs

/-- The first cycle of an overspent campaign sends its pause. -/
theorem file_executor_runs_paused :
    ∃ P, Transition.Reachable (fileSystem ⟨robotPolicy, "policy"⟩) P ∧
      P.shared.log = [.started none, .reserved ⟨seconds 43200, .pauseCampaignForDailyCap⟩,
        .sent ⟨seconds 43200, .pauseCampaignForDailyCap⟩] ∧
      P.shared.log.count (.sent ⟨seconds 43200, .pauseCampaignForDailyCap⟩) ≤ 1 := by
  let opening : FileWorld := ⟨none, ∅, 0, []⟩
  let idle : Unit → Option (FileProg WbAutomationExecutionOutcome) := fun _ => none
  have hstart : Transition.Reachable (fileSystem ⟨robotPolicy, "policy"⟩) ⟨opening, idle⟩ :=
    .init ⟨⟨rfl, rfl⟩, fun _ => rfl⟩
  have hspawn := hstart.step (.spawn () (scheduledCycle ⟨robotPolicy, "policy"⟩) rfl)
  obtain ⟨P, hP, hlog⟩ := Pool.reachable_of_may (R := fun s => s.log = [.started none,
    .reserved ⟨seconds 43200, .pauseCampaignForDailyCap⟩,
    .sent ⟨seconds 43200, .pauseCampaignForDailyCap⟩]) hspawn (Function.update_self ..) (by
      refine ⟨seconds 43200, _, ⟨by decide, rfl⟩, ?_⟩
      refine ⟨.ok true, _, rfl, ?_⟩
      refine ⟨.ok none, _, ⟨rfl, .inl rfl⟩, ?_⟩
      refine ⟨.ok overspentObservation, _, rfl, ?_⟩
      refine ⟨.ok (), _, ⟨Set.notMem_empty _, rfl⟩, ?_⟩
      refine ⟨.ok (), _, .acknowledged () rfl, ?_⟩
      refine ⟨.ok (), _, ⟨rfl, fun _ h => (nomatch h)⟩, ?_⟩
      refine ⟨.ok (some _), _, ⟨rfl, .inl rfl⟩, ?_⟩
      refine ⟨.ok (), _, ⟨rfl, fun _ h => (nomatch h)⟩, ?_⟩
      refine ⟨.ok (), _, ⟨rfl, fun _ h => (nomatch h)⟩, ?_⟩
      rfl)
  exact ⟨P, hP, hlog, (file_executor_runs hP).2.1 _⟩

end AdsControl.Wb
