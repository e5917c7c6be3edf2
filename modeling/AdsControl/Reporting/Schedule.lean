import AdsControl.Reporting.Delivery
import AdsControl.Lib.Coverage

/-!
# The schedule of reports and collections

The scheduler is polled at arbitrary instants and plans the reports that are due and not covered; the
collector opens one occurrence at a time. Both use the same business clock.

* `dueForAudience`, `dueForPolicy`, `pollPolicy`: planning, and a whole history of polls;
* `reportingInterval`, `reportCutoff`, `dueCollection`, `dueForPlan`: the data of a report;
* **`schedule_exactly_once`**: every due report is planned once, and a collection always carries the
  cutoff of the reports it is for.
-/

namespace AdsControl.Reporting

open Fallible Coverage

/-! ## Planning -/

/-- A delivery for one recipient. -/
structure ScheduledDelivery where
  recipientId : String
  delivery : PendingDelivery
  deriving DecidableEq

/-- Why nothing is scheduled. -/
inductive SchedulerError
  | schedule (error : ReportScheduleError)
  deriving DecidableEq

/-- The deliveries that are due for a recipient. -/
def dueForAudience (now : ℤ) (recipientId : String) (reportVersion : ℕ)
    (coveredKeys : List ReportKey) : Except SchedulerError (List ScheduledDelivery) := do
  let deliveries ← (dueDeliveries now recipientId reportVersion coveredKeys).mapError .schedule
  return deliveries.map fun delivery => ⟨recipientId, delivery⟩

/-- What the scheduler reads of a validated policy. -/
structure DailyReportPolicy where
  version : ℕ
  audiences : List String
  identity : ∀ id ∈ audiences, validateReportIdentity id version = .ok ()
  distinct : audiences.Nodup

/-- Plan every audience; `coveredFor` are its persisted keys of a date. -/
def dueForPolicy (now : ℤ) (policy : DailyReportPolicy)
    (coveredFor : String → ℤ → ℕ → List ReportKey) : Except SchedulerError (List ScheduledDelivery) := do
  let date := businessDate now
  let planned ← policy.audiences.mapM fun id =>
    dueForAudience now id policy.version (coveredFor id date policy.version)
  return planned.flatten

/-- The persisted keys of an audience, a date and a version. -/
def coveredFor (covered : List ReportKey) (id : String) (date : ℤ) (version : ℕ) :
    List ReportKey :=
  covered.filter fun key => key.recipientId = id ∧ key.localDate = date ∧ key.reportVersion = version

/-- A history of polls; the keys planned by a poll are persisted before the next one. -/
def pollPolicy (policy : DailyReportPolicy) :
    List ℤ → List ReportKey → Except SchedulerError (List (ℤ × ReportKey))
  | [], _ => .ok []
  | now :: polls, covered => do
    let planned ← dueForPolicy now policy (coveredFor covered)
    let keys := planned.flatMap fun scheduled => scheduled.delivery.coveredKeys
    let later ← pollPolicy policy polls (covered ++ keys)
    return keys.map (Prod.mk now) ++ later

/-! ## Intervals and cutoffs -/

/-- The day before a date, absent at the start of the calendar. -/
def predDate (date : ℤ) : Option ℤ :=
  if dateIn 0 minUtc ≤ date - 1 then some (date - 1) else none

/-- The data of a report: the preceding day for the morning, the day until 17:00 for the evening. -/
def reportingInterval (key : ReportKey) : Except ReportScheduleError (ℤ × ℤ) := do
  validateReportIdentity key.recipientId key.reportVersion
  match key.kind with
  | .morning =>
    let date ← context (predDate key.localDate) .outOfRange
    let start ← reportTime date 0
    let finish ← reportTime key.localDate 0
    return (start, finish)
  | .evening =>
    let start ← reportTime key.localDate 0
    let finish ← reportTime key.localDate eveningHour
    return (start, finish)

/-- The cutoff of the sources of a report. -/
def reportCutoff (key : ReportKey) : Except ReportScheduleError ℤ := do
  let interval ← reportingInterval key
  match key.kind with
  | .morning => context (checkedAddSigned interval.2 (hours morningHour)) .outOfRange
  | .evening => return interval.2

/-! ## Collections -/

/-- How long after the cutoff a collection may finish. -/
def collectionCompletionWindow : ℤ := seconds (30 * 60)

/-- An open collection. -/
structure DueCollection where
  localDate : ℤ
  kind : ReportKind
  cutoffAt : ℤ
  periodStart : ℤ
  periodEnd : ℤ
  completeBy : ℤ
  delayed : Bool
  deriving DecidableEq

/-- Why no collection is found. -/
inductive CollectionScheduleError
  | report (error : ReportScheduleError)
  deriving DecidableEq

/-- The report that stands for a collection. -/
def internalKey (localDate : ℤ) (kind : ReportKind) : ReportKey := ⟨localDate, kind, "collector", 1⟩

/-- The first of the kinds whose completion window is open. -/
def dueOfKinds (now localDate : ℤ) :
    List ReportKind → Except CollectionScheduleError (Option DueCollection)
  | [] => .ok none
  | kind :: kinds => do
    let key := internalKey localDate kind
    let cutoffAt ← (reportCutoff key).mapError .report
    let completeBy ← context (checkedAddSigned cutoffAt collectionCompletionWindow)
      (.report .outOfRange)
    if cutoffAt ≤ now ∧ now ≤ completeBy then
      let period ← (reportingInterval key).mapError .report
      return some ⟨localDate, kind, cutoffAt, period.1, period.2, completeBy,
        decide (cutoffAt < now)⟩
    else dueOfKinds now localDate kinds

/-- The collection that is open now. -/
def dueCollection (now : ℤ) : Except CollectionScheduleError (Option DueCollection) :=
  dueOfKinds now (businessDate now) [.evening, .morning]

/-- The targets of the open occurrence that are not published. -/
def dueForPlan {Target : Type} (now : ℤ) (targets : List Target)
    (published : Target → ℤ → Bool) :
    Except CollectionScheduleError (Option (DueCollection × List Target)) := do
  let some occurrence ← dueCollection now | return none
  let targets := targets.filter fun target => !published target occurrence.cutoffAt
  return if targets.isEmpty then none else some (occurrence, targets)

/-! ## The business clock -/

/-- The instants whose local time the calendar can show. -/
abbrev LocalInstant : Type := { t : ℤ // minUtc ≤ t ∧ t + seconds yekaterinburg ≤ maxUtc }

/-- The instant falls between two hours of a local date. -/
def Within (date first last now : ℤ) : Prop := localHour date first ≤ now ∧ now ≤ localHour date last

instance decidableWithin (date first last now : ℤ) : Decidable (Within date first last now) :=
  inferInstanceAs (Decidable (_ ∧ _))

theorem businessDate_of_within {date first last now : ℤ} (hfirst : 0 ≤ first) (hlast : last < 24)
    (h : Within date first last now) : businessDate now = date := by
  simp only [Within, localHour, seconds, yekaterinburg] at h
  simp only [businessDate, dateIn, seconds, yekaterinburg]
  omega

theorem reportTime_businessDate (now : LocalInstant) {hour : ℤ} (hfirst : 5 ≤ hour)
    (hlast : hour < 24) : reportTime (businessDate now) hour =
      .ok (localHour (businessDate now) hour) := by
  obtain ⟨t, hmin, hmax⟩ := now
  show reportTime (businessDate t) hour = .ok (localHour (businessDate t) hour)
  rw [reportTime, context_eq_ok, inCalendar_eq_some]
  simp only [minUtc, maxUtc, seconds, yekaterinburg] at hmin hmax
  refine ⟨rfl, ?_, ?_⟩
  · simp only [localHour, businessDate, dateIn, minUtc, seconds, yekaterinburg]
    omega
  · simp only [localHour, businessDate, dateIn, maxUtc, seconds, yekaterinburg]
    omega

/-! ## Polls -/

/-- The keys an audience is owed at an instant. -/
def owedKeys (version : ℕ) (now : ℤ) (id : String) : List ReportKey :=
  let date := businessDate now
  if Within date eveningHour eveningDeadlineHour now then
    [⟨date, .morning, id, version⟩, ⟨date, .evening, id, version⟩]
  else if Within date morningHour morningDeadlineHour now then [⟨date, .morning, id, version⟩]
  else []

theorem mem_owedKeys {version : ℕ} {now : ℤ} {id : String} {key : ReportKey} :
    key ∈ owedKeys version now id ↔ key.recipientId = id ∧ key.reportVersion = version ∧
      match key.kind with
      | .morning => Within key.localDate morningHour morningDeadlineHour now ∨
          Within key.localDate eveningHour eveningDeadlineHour now
      | .evening => Within key.localDate eveningHour eveningDeadlineHour now := by
  have hevening : ∀ date, Within date eveningHour eveningDeadlineHour now → businessDate now = date :=
    fun date => businessDate_of_within (by decide) (by decide)
  have hmorning : ∀ date, Within date morningHour morningDeadlineHour now → businessDate now = date :=
    fun date => businessDate_of_within (by decide) (by decide)
  obtain ⟨date, kind, recipient, version'⟩ := key
  unfold owedKeys
  dsimp only
  by_cases hdate : businessDate now = date
  · subst hdate
    split_ifs with he hm
    · cases kind <;> simp [he]
    · cases kind <;> simp [he, hm]
    · cases kind <;> simp [he, hm]
  · have he : ¬ Within date eveningHour eveningDeadlineHour now := fun h => hdate (hevening date h)
    have hm : ¬ Within date morningHour morningDeadlineHour now := fun h => hdate (hmorning date h)
    split_ifs <;> cases kind <;> simp [he, hm, Ne.symm hdate]

theorem nodup_owedKeys (version : ℕ) (now : ℤ) (id : String) : (owedKeys version now id).Nodup := by
  unfold owedKeys
  dsimp only
  split_ifs <;> simp

theorem localDate_of_mem_owedKeys {version : ℕ} {now : ℤ} {id : String} {key : ReportKey}
    (h : key ∈ owedKeys version now id) : key.localDate = businessDate now := by
  unfold owedKeys at h
  dsimp only at h
  split_ifs at h
  · rcases List.mem_pair.mp h with rfl | rfl <;> rfl
  · rw [List.mem_singleton.mp h]
  · cases h

/-- A poll plans what is owed and not covered. -/
theorem dueDeliveries_keys (now : LocalInstant) {id : String} {version : ℕ}
    (hidentity : validateReportIdentity id version = .ok ()) (sent : List ReportKey) :
    ∃ deliveries, dueDeliveries now id version sent = .ok deliveries ∧
      deliveries.flatMap (fun delivery => delivery.coveredKeys) =
        missing (owedKeys version now id) sent := by
  have htime : ∀ hour, 5 ≤ hour → hour < 24 → reportTime (businessDate now) hour =
      .ok (localHour (businessDate now) hour) := fun hour => reportTime_businessDate now
  simp only [dueDeliveries, hidentity, htime morningHour (by decide) (by decide),
    htime morningDeadlineHour (by decide) (by decide), htime eveningHour (by decide) (by decide),
    htime eveningDeadlineHour (by decide) (by decide), bind, Except.bind]
  by_cases hevening : Within (businessDate now) eveningHour eveningDeadlineHour now
  · have howed : owedKeys version now id = _ := if_pos hevening
    rw [if_pos (And.intro hevening.1 hevening.2), howed]
    refine ⟨_, rfl, ?_⟩
    unfold eveningDeliveries missing
    split_ifs with hm he he <;> simp [hm, he]
  have hrest : owedKeys version now id = _ := if_neg hevening
  rw [if_neg fun h => hevening ⟨h.1, h.2⟩, hrest]
  by_cases hmorning : Within (businessDate now) morningHour morningDeadlineHour now
  · rw [if_pos hmorning]
    split_ifs with hdue
    · exact ⟨_, rfl, by simp [missing, hdue.2.2]⟩
    · have hsent := not_not.mp fun hnot => hdue ⟨hmorning.1, hmorning.2, hnot⟩
      exact ⟨_, rfl, by simp [missing, hsent]⟩
  · rw [if_neg hmorning, if_neg fun hdue => hmorning ⟨hdue.1, hdue.2.1⟩]
    exact ⟨_, rfl, rfl⟩

theorem missing_coveredFor (version : ℕ) (now : ℤ) (id : String) (covered : List ReportKey) :
    missing (owedKeys version now id) (coveredFor covered id (businessDate now) version) =
      missing (owedKeys version now id) covered := by
  refine List.filter_congr fun key hkey => ?_
  have hdate := localDate_of_mem_owedKeys hkey
  obtain ⟨hid, hversion, -⟩ := mem_owedKeys.mp hkey
  simp [coveredFor, hid, hdate, hversion]

variable (policy : DailyReportPolicy)

/-- The keys all audiences are owed at an instant. -/
def DailyReportPolicy.owed (now : ℤ) : List ReportKey :=
  policy.audiences.flatMap (owedKeys policy.version now)

theorem DailyReportPolicy.nodup_owed (now : ℤ) : (policy.owed now).Nodup := by
  refine List.nodup_flatMap.mpr ⟨fun id _ => nodup_owedKeys policy.version now id, ?_⟩
  refine policy.distinct.imp fun {a b} hne key ha hb => hne ?_
  exact (mem_owedKeys.mp ha).1.symm.trans (mem_owedKeys.mp hb).1

theorem dueForPolicy_keys (now : LocalInstant) (covered : List ReportKey) :
    ∃ planned, dueForPolicy now policy (coveredFor covered) = .ok planned ∧
      planned.flatMap (fun scheduled => scheduled.delivery.coveredKeys) =
        missing (policy.owed now) covered := by
  have hids : ∀ ids : List String, (∀ id ∈ ids, id ∈ policy.audiences) →
      ∃ plans, ids.mapM (fun id => dueForAudience now id policy.version
          (coveredFor covered id (businessDate now) policy.version)) = .ok plans ∧
        plans.flatten.flatMap (fun scheduled => scheduled.delivery.coveredKeys) =
          missing (ids.flatMap (owedKeys policy.version now)) covered := by
    intro ids
    induction ids with
    | nil => exact fun _ => ⟨[], rfl, rfl⟩
    | cons id ids ih =>
      intro hmem
      obtain ⟨hid, hrest⟩ := List.forall_mem_cons.mp hmem
      obtain ⟨plans, hplans, hkeys⟩ := ih hrest
      obtain ⟨deliveries, hdue, hown⟩ := dueDeliveries_keys now (policy.identity id hid)
        (coveredFor covered id (businessDate now) policy.version)
      refine ⟨deliveries.map (fun delivery => ⟨id, delivery⟩) :: plans, ?_, ?_⟩
      · simp only [List.mapM_cons, ok_of_bind, ok_of_pure]
        refine ⟨_, ?_, plans, hplans, rfl⟩
        simp only [dueForAudience, ok_of_bind, ok_of_mapError, ok_of_pure]
        exact ⟨deliveries, hdue, rfl⟩
      · rw [List.flatten_cons, List.flatMap_append, hkeys, List.flatMap_map, hown,
          missing_coveredFor, List.flatMap_cons]
        exact (List.filter_append _ _).symm
  obtain ⟨plans, hplans, hkeys⟩ := hids policy.audiences fun _ hid => hid
  refine ⟨plans.flatten, ?_, hkeys⟩
  simp only [dueForPolicy, ok_of_bind, ok_of_pure]
  exact ⟨plans, hplans, rfl⟩

/-- **A history of polls is planning against a coverage.** -/
theorem pollPolicy_eq_collect (polls : List LocalInstant) (covered : List ReportKey) :
    pollPolicy policy (polls.map Subtype.val) covered =
      .ok (collect policy.owed (polls.map Subtype.val) covered) := by
  induction polls generalizing covered with
  | nil => rfl
  | cons now polls ih =>
    obtain ⟨planned, hplanned, hkeys⟩ := dueForPolicy_keys policy now covered
    simp only [List.map_cons, pollPolicy, ok_of_bind, ok_of_pure]
    refine ⟨planned, hplanned, _, ih _, ?_⟩
    rw [hkeys]
    rfl

/-! ## Cutoffs -/

/-- The hour of the cutoff of a report. -/
def ReportKind.cutoffHour : ReportKind → ℤ
  | morning => morningHour
  | evening => eveningHour

theorem checkedAddSigned_ok {instant duration t : ℤ} (h : checkedAddSigned instant duration = some t) :
    t = instant + duration ∧ minUtc ≤ t ∧ t ≤ maxUtc := by
  obtain ⟨rfl, hin⟩ := inCalendar_eq_some.mp h
  exact ⟨rfl, hin⟩

theorem inCalendar_of_reportTime {date hour instant : ℤ} (h : reportTime date hour = .ok instant) :
    instant = localHour date hour ∧ minUtc ≤ localHour date hour ∧ localHour date hour ≤ maxUtc := by
  rw [reportTime, context_eq_ok, inCalendar_eq_some] at h
  exact h

theorem reportCutoff_ok {key : ReportKey} {cutoff : ℤ} (h : reportCutoff key = .ok cutoff) :
    cutoff = localHour key.localDate key.kind.cutoffHour ∧ minUtc ≤ localHour key.localDate 0 ∧
      cutoff ≤ maxUtc := by
  simp only [reportCutoff, ok_of_bind] at h
  obtain ⟨interval, hinterval, h⟩ := h
  simp only [reportingInterval, ok_of_bind] at hinterval
  obtain ⟨_, -, hinterval⟩ := hinterval
  cases hkind : key.kind with
  | morning =>
    simp only [hkind, ok_of_bind, ok_of_pure, context_eq_ok] at hinterval h
    obtain ⟨date, -, start, -, finish, hfinish, rfl⟩ := hinterval
    obtain ⟨rfl, hmin, -⟩ := inCalendar_of_reportTime hfinish
    obtain ⟨rfl, -, hmax⟩ := checkedAddSigned_ok h
    refine ⟨?_, hmin, hmax⟩
    simp only [ReportKind.cutoffHour, localHour, hours, seconds]
    omega
  | evening =>
    simp only [hkind, ok_of_bind, ok_of_pure] at hinterval h
    obtain ⟨start, hstart, finish, hfinish, rfl⟩ := hinterval
    obtain ⟨-, hmin, -⟩ := inCalendar_of_reportTime hstart
    obtain ⟨rfl, -, hmax⟩ := inCalendar_of_reportTime hfinish
    exact ⟨h.symm, hmin, h ▸ hmax⟩

theorem reportingInterval_congr {key key' : ReportKey} (hdate : key.localDate = key'.localDate)
    (hkind : key.kind = key'.kind)
    (hidentity : validateReportIdentity key.recipientId key.reportVersion =
      validateReportIdentity key'.recipientId key'.reportVersion) :
    reportingInterval key = reportingInterval key' := by
  rw [reportingInterval, reportingInterval, hidentity, hdate, hkind]

theorem reportCutoff_congr {key key' : ReportKey} (hdate : key.localDate = key'.localDate)
    (hkind : key.kind = key'.kind)
    (hidentity : validateReportIdentity key.recipientId key.reportVersion =
      validateReportIdentity key'.recipientId key'.reportVersion) :
    reportCutoff key = reportCutoff key' := by
  rw [reportCutoff, reportCutoff, reportingInterval_congr hdate hkind hidentity, hkind]

theorem validateReportIdentity_internalKey (date : ℤ) (kind : ReportKind) :
    validateReportIdentity (internalKey date kind).recipientId
      (internalKey date kind).reportVersion = .ok () := by
  show validateReportIdentity "collector" 1 = .ok ()
  decide +kernel

/-! ## Open collections -/

/-- The completion window of a cutoff is open. -/
def CollectionOpen (cutoff now : ℤ) : Prop := cutoff ≤ now ∧ now ≤ cutoff + collectionCompletionWindow

theorem dueOfKinds_some {now date : ℤ} {kinds : List ReportKind} {occurrence : DueCollection}
    (h : dueOfKinds now date kinds = .ok (some occurrence)) :
    occurrence.localDate = date ∧
      reportCutoff (internalKey date occurrence.kind) = .ok occurrence.cutoffAt ∧
      reportingInterval (internalKey date occurrence.kind) =
        .ok (occurrence.periodStart, occurrence.periodEnd) ∧
      CollectionOpen occurrence.cutoffAt now := by
  induction kinds with
  | nil => cases h
  | cons kind kinds ih =>
    simp only [dueOfKinds, ok_of_bind, ok_of_mapError, context_eq_ok] at h
    obtain ⟨cutoff, hcutoff, completeBy, hcomplete, h⟩ := h
    split at h
    · rename_i hopen
      simp only [ok_of_bind, ok_of_mapError, ok_of_pure, Option.some.injEq] at h
      obtain ⟨period, hperiod, rfl⟩ := h
      obtain ⟨rfl, -⟩ := checkedAddSigned_ok hcomplete
      exact ⟨rfl, hcutoff, hperiod, hopen⟩
    · exact ih h

/-- At most one occurrence is open at an instant. -/
theorem collectionOpen_unique {key key' : ReportKey} {cutoff cutoff' now : ℤ}
    (h : reportCutoff key = .ok cutoff) (h' : reportCutoff key' = .ok cutoff')
    (hopen : CollectionOpen cutoff now) (hopen' : CollectionOpen cutoff' now) :
    key.localDate = key'.localDate ∧ key.kind = key'.kind := by
  obtain ⟨rfl, -⟩ := reportCutoff_ok h
  obtain ⟨rfl, -⟩ := reportCutoff_ok h'
  simp only [CollectionOpen, collectionCompletionWindow, localHour, seconds] at hopen hopen'
  cases hkind : key.kind <;> cases hkind' : key'.kind <;>
    simp only [hkind, hkind', ReportKind.cutoffHour, morningHour, eveningHour] at hopen hopen' <;>
    first | exact ⟨by omega, rfl⟩ | omega

theorem completeBy_ok {key : ReportKey} {cutoff : ℤ} (h : reportCutoff key = .ok cutoff) :
    checkedAddSigned cutoff collectionCompletionWindow = some (cutoff + collectionCompletionWindow) := by
  obtain ⟨rfl, hmin, hmax⟩ := reportCutoff_ok h
  refine inCalendar_eq_some.mpr ⟨rfl, ?_, ?_⟩
  all_goals
    simp only [minUtc, maxUtc, localHour, seconds, yekaterinburg] at hmin hmax
    simp only [collectionCompletionWindow, minUtc, maxUtc, localHour, seconds, yekaterinburg]
    cases hkind : key.kind <;>
      simp only [hkind, ReportKind.cutoffHour, morningHour, eveningHour] at hmax ⊢ <;> omega

theorem dueOfKinds_of_open {now date cutoff : ℤ} {kind : ReportKind} (kinds : List ReportKind)
    (h : reportCutoff (internalKey date kind) = .ok cutoff) (hopen : CollectionOpen cutoff now) :
    ∃ occurrence, dueOfKinds now date (kind :: kinds) = .ok (some occurrence) ∧
      occurrence.localDate = date ∧ occurrence.kind = kind := by
  have hinterval := h
  simp only [reportCutoff, ok_of_bind] at hinterval
  obtain ⟨interval, hinterval, -⟩ := hinterval
  refine ⟨⟨date, kind, cutoff, interval.1, interval.2, cutoff + collectionCompletionWindow,
    decide (cutoff < now)⟩, ?_, rfl, rfl⟩
  simp only [dueOfKinds, ok_of_bind, ok_of_mapError, context_eq_ok]
  refine ⟨cutoff, h, _, completeBy_ok h, ?_⟩
  rw [if_pos (And.intro hopen.1 hopen.2)]
  simp only [ok_of_bind, ok_of_mapError, ok_of_pure]
  exact ⟨interval, hinterval, rfl⟩

theorem dueOfKinds_of_not_open {now date cutoff : ℤ} {kind : ReportKind} {kinds : List ReportKind}
    (h : reportCutoff (internalKey date kind) = .ok cutoff) (hopen : ¬ CollectionOpen cutoff now) :
    dueOfKinds now date (kind :: kinds) = dueOfKinds now date kinds := by
  rw [dueOfKinds, h]
  simp only [Except.mapError, completeBy_ok h, context, bind, Except.bind]
  exact if_neg fun hin => hopen ⟨hin.1, hin.2⟩

/-- A date with a morning report has an evening report. -/
theorem reportCutoff_evening {date cutoff : ℤ}
    (h : reportCutoff (internalKey date .morning) = .ok cutoff) :
    reportCutoff (internalKey date .evening) = .ok (localHour date eveningHour) := by
  obtain ⟨rfl, hmin, hmax⟩ := reportCutoff_ok h
  replace hmin : minUtc ≤ localHour date 0 := hmin
  replace hmax : localHour date morningHour ≤ maxUtc := hmax
  have htime : ∀ hour, 0 ≤ hour → hour < 24 → reportTime date hour = .ok (localHour date hour) := by
    intro hour hfirst hlast
    rw [reportTime, context_eq_ok, inCalendar_eq_some]
    simp only [minUtc, maxUtc, localHour, seconds, yekaterinburg, morningHour] at hmin hmax
    refine ⟨rfl, ?_, ?_⟩
    all_goals
      simp only [minUtc, maxUtc, localHour, seconds, yekaterinburg]
      omega
  have hstart : reportTime date 0 = .ok (localHour date 0) := htime 0 (by decide) (by decide)
  have hfinish : reportTime date eveningHour = .ok (localHour date eveningHour) :=
    htime eveningHour (by decide) (by decide)
  have hinterval : reportingInterval (internalKey date .evening) =
      .ok (localHour date 0, localHour date eveningHour) :=
    ok_of_bind.mpr ⟨(), validateReportIdentity_internalKey date .evening,
      ok_of_bind.mpr ⟨_, hstart, ok_of_bind.mpr ⟨_, hfinish, rfl⟩⟩⟩
  exact ok_of_bind.mpr ⟨_, hinterval, rfl⟩

theorem dueCollection_of_open {key : ReportKey} {cutoff now : ℤ}
    (h : reportCutoff key = .ok cutoff) (hopen : CollectionOpen cutoff now) :
    ∃ occurrence, dueCollection now = .ok (some occurrence) ∧
      occurrence.localDate = key.localDate ∧ occurrence.kind = key.kind := by
  have hcutoff := (reportCutoff_ok h).1
  have hdate : businessDate now = key.localDate := by
    have hin := hopen
    rw [hcutoff] at hin
    simp only [CollectionOpen, collectionCompletionWindow, localHour, seconds, yekaterinburg] at hin
    simp only [businessDate, dateIn, seconds, yekaterinburg]
    cases hkind : key.kind <;>
      simp only [hkind, ReportKind.cutoffHour, morningHour, eveningHour] at hin <;> omega
  have hidentity : validateReportIdentity key.recipientId key.reportVersion = .ok () := by
    simp only [reportCutoff, reportingInterval, ok_of_bind] at h
    obtain ⟨_, ⟨_, hidentity, -⟩, -⟩ := h
    exact hidentity
  have hinternal : reportCutoff (internalKey key.localDate key.kind) = .ok cutoff := by
    rw [← h]
    exact reportCutoff_congr rfl rfl
      ((validateReportIdentity_internalKey key.localDate key.kind).trans hidentity.symm)
  unfold dueCollection
  rw [hdate]
  cases hkind : key.kind with
  | evening =>
    rw [hkind] at hinternal
    exact dueOfKinds_of_open _ hinternal hopen
  | morning =>
    rw [hkind] at hinternal
    have hevening := reportCutoff_evening hinternal
    -- the evening window of the same date is closed while the morning one is open
    have hclosed : ¬ CollectionOpen (localHour key.localDate eveningHour) now := by
      intro hopen'
      have := (collectionOpen_unique hinternal hevening hopen hopen').2
      cases this
    rw [dueOfKinds_of_not_open hevening hclosed]
    exact dueOfKinds_of_open _ hinternal hopen

/-- **The schedule plans every due report exactly once, and collections match the reports.** Over any
history of polls no key is planned twice, the morning report of a date is planned exactly when some
poll falls into 08:00–14:00 or 17:00–23:00 and the evening report when one falls into 17:00–23:00,
always by a poll of the same date. An open collection carries the cutoff of the reports of its date
and kind, an occurrence is open exactly when `dueCollection` returns it, and no two are open at
once. -/
theorem schedule_exactly_once (policy : DailyReportPolicy) (polls : List LocalInstant) :
    (∃ emitted, pollPolicy policy (polls.map Subtype.val) [] = .ok emitted ∧
      (emitted.map Prod.snd).Nodup ∧
      (∀ id ∈ policy.audiences, ∀ date,
        (⟨date, .morning, id, policy.version⟩ ∈ emitted.map Prod.snd ↔
          ∃ now ∈ polls, Within date 8 14 now ∨ Within date 17 23 now) ∧
        (⟨date, .evening, id, policy.version⟩ ∈ emitted.map Prod.snd ↔
          ∃ now ∈ polls, Within date 17 23 now)) ∧
      ∀ now key, (now, key) ∈ emitted → key.localDate = businessDate now) ∧
    (∀ now occurrence, dueCollection now = .ok (some occurrence) →
      CollectionOpen occurrence.cutoffAt now ∧
      ∀ id version, validateReportIdentity id version = .ok () →
        reportCutoff ⟨occurrence.localDate, occurrence.kind, id, version⟩ =
          .ok occurrence.cutoffAt) ∧
    (∀ now key cutoff, reportCutoff key = .ok cutoff → CollectionOpen cutoff now →
      ∃ occurrence, dueCollection now = .ok (some occurrence) ∧
        occurrence.localDate = key.localDate ∧ occurrence.kind = key.kind) ∧
    ∀ now key key' cutoff cutoff', reportCutoff key = .ok cutoff → reportCutoff key' = .ok cutoff' →
      CollectionOpen cutoff now → CollectionOpen cutoff' now →
      key.localDate = key'.localDate ∧ key.kind = key'.kind := by
  refine ⟨⟨_, pollPolicy_eq_collect policy polls [], ?_, ?_, ?_⟩, ?_, ?_, ?_⟩
  · exact nodup_collect fun now _ => policy.nodup_owed now
  · intro id hid date
    have howed : ∀ kind, (⟨date, kind, id, policy.version⟩ : ReportKey) ∈
        (collect policy.owed (polls.map Subtype.val) []).map Prod.snd ↔
        ∃ now ∈ polls, (⟨date, kind, id, policy.version⟩ : ReportKey) ∈
          owedKeys policy.version now id := by
      intro kind
      rw [mem_collect]
      simp only [List.not_mem_nil, not_false_eq_true, true_and, DailyReportPolicy.owed,
        List.mem_flatMap]
      constructor
      · rintro ⟨now, hnow, id', -, hkey⟩
        obtain ⟨poll, hpoll, rfl⟩ := List.mem_map.mp hnow
        have hown : id = id' := (mem_owedKeys.mp hkey).1
        exact ⟨poll, hpoll, hown ▸ hkey⟩
      · rintro ⟨poll, hpoll, hkey⟩
        exact ⟨poll, List.mem_map_of_mem hpoll, id, hid, hkey⟩
    constructor
    · rw [howed .morning]
      refine exists_congr fun now => and_congr_right fun _ => ?_
      simp [mem_owedKeys, morningHour, morningDeadlineHour, eveningHour, eveningDeadlineHour]
    · rw [howed .evening]
      refine exists_congr fun now => and_congr_right fun _ => ?_
      simp [mem_owedKeys, eveningHour, eveningDeadlineHour]
  · intro now key hmem
    obtain ⟨id, -, hkey⟩ := List.mem_flatMap.mp (wanted_of_mem_collect hmem).2
    exact localDate_of_mem_owedKeys hkey
  · intro now occurrence h
    obtain ⟨hdate, hcutoff, -, hopen⟩ := dueOfKinds_some h
    refine ⟨hopen, fun id version hidentity => ?_⟩
    rw [← hcutoff, ← hdate]
    exact reportCutoff_congr rfl rfl
      (hidentity.trans (validateReportIdentity_internalKey _ occurrence.kind).symm)
  · exact fun now key cutoff h hopen => dueCollection_of_open h hopen
  · exact fun now key key' cutoff cutoff' h h' hopen hopen' => collectionOpen_unique h h' hopen hopen'

/-- A policy with one audience. -/
def ownerPolicy : DailyReportPolicy where
  version := 1
  audiences := ["pilot_owner"]
  identity := by
    intro id hid
    rw [List.mem_singleton.mp hid]
    decide +kernel
  distinct := List.nodup_singleton _

/-- Polls at 18:00 and 20:00 of a date and at 09:00 of the next. -/
def recoveringPolls : List LocalInstant :=
  [⟨localHour 20000 18, by decide⟩, ⟨localHour 20000 20, by decide⟩, ⟨localHour 20001 9, by decide⟩]

/-- The first poll recovers the morning report, and no poll after it plans a report again. -/
theorem schedule_exactly_once_recovered_morning :
    ∃ emitted, pollPolicy ownerPolicy (recoveringPolls.map Subtype.val) [] = .ok emitted ∧
      (emitted.map Prod.snd).Nodup ∧
      ⟨20000, .morning, "pilot_owner", 1⟩ ∈ emitted.map Prod.snd ∧
      ⟨20000, .evening, "pilot_owner", 1⟩ ∈ emitted.map Prod.snd ∧
      ⟨20001, .morning, "pilot_owner", 1⟩ ∈ emitted.map Prod.snd ∧
      ⟨20001, .evening, "pilot_owner", 1⟩ ∉ emitted.map Prod.snd := by
  obtain ⟨emitted, hpoll, hnodup, hkeys, -⟩ := (schedule_exactly_once ownerPolicy recoveringPolls).1
  obtain ⟨hmorning, hevening⟩ := hkeys "pilot_owner" (List.mem_singleton_self _) 20000
  obtain ⟨hmorning', hevening'⟩ := hkeys "pilot_owner" (List.mem_singleton_self _) 20001
  refine ⟨emitted, hpoll, hnodup, hmorning.mpr ?_, hevening.mpr ?_, hmorning'.mpr ?_, fun hin => ?_⟩
  · exact ⟨_, List.mem_cons_self, .inr (by decide)⟩
  · exact ⟨_, List.mem_cons_self, by decide⟩
  · exact ⟨_, List.mem_cons_of_mem _ (List.mem_cons_of_mem _ List.mem_cons_self), .inl (by decide)⟩
  · have hnone : ∀ now ∈ recoveringPolls, ¬ Within 20001 17 23 now := by decide
    obtain ⟨now, hnow, hwithin⟩ := hevening'.mp hin
    exact hnone now hnow hwithin

end AdsControl.Reporting
