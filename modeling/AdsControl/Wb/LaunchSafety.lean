import AdsControl.Lib.History
import AdsControl.Lib.Process
import AdsControl.Wb.LaunchReads

/-!
# Safety of a launch

Any number of processes open journals and run stages on one root, and end anywhere. A record is begun once
and finished at most once; the lock of a directory has one holder; the marketplace may answer anything. The
log of a directory records the records and the requests that departed.

* `launchAnswers`: what files, locks and marketplace may answer;
* `LaunchJustified`: what must stand in the log before a request departs;
* `locked`: rules for the process that holds a directory;
* `Opened.justified`: the attempt of an opened journal justifies the request of its stage;
* **`launch_journal_safe`**: the order of records and requests along every run.
-/

namespace AdsControl.Wb.Launch

open Fallible Interaction History Serde

/-! ## The world -/

/-- How far a record is written. -/
inductive RecordFile
  | absent
  | begun
  | complete (value : Json)
  deriving DecidableEq

/-- What a launch did. -/
inductive LaunchEvent
  | begun (space : Namespace) (name : RecordName)
  | written (space : Namespace) (name : RecordName) (value : Json)
  | sent (space : Namespace) (stage : Stage) (manifest : Json)
  deriving DecidableEq

/-- A directory: its records, the process that holds its lock, and its log. -/
structure LaunchDirectory (W : Type) where
  files : Namespace → RecordName → RecordFile
  holder : Option W
  log : List LaunchEvent

/-- The directories of a root. -/
abbrev LaunchRoot (W : Type) : Type := String → LaunchDirectory W

namespace LaunchDirectory

variable {W : Type}

/-- Write a record. -/
def setFile (x : LaunchDirectory W) (space : Namespace) (name : RecordName) (file : RecordFile) :
    LaunchDirectory W :=
  { x with files := fun space' name' => if space' = space ∧ name' = name then file else x.files space' name' }

/-- Add an event. -/
def record (x : LaunchDirectory W) (event : LaunchEvent) : LaunchDirectory W :=
  { x with log := x.log ++ [event] }

/-- A record is created, still without content. -/
def begin (x : LaunchDirectory W) (space : Namespace) (name : RecordName) : LaunchDirectory W :=
  (x.setFile space name .begun).record (.begun space name)

/-- A record gets its content. -/
def finish (x : LaunchDirectory W) (space : Namespace) (name : RecordName) (value : Json) :
    LaunchDirectory W :=
  (x.setFile space name (.complete value)).record (.written space name value)

/-- Take or release the lock. -/
def hold (x : LaunchDirectory W) (holder : Option W) : LaunchDirectory W := { x with holder := holder }

section Lookup

variable (x : LaunchDirectory W) (space space' : Namespace) (name name' : RecordName) (value : Json)

@[simp] theorem log_begin : (x.begin space name).log = x.log ++ [.begun space name] := rfl

@[simp] theorem log_finish : (x.finish space name value).log = x.log ++ [.written space name value] := rfl

@[simp] theorem holder_begin : (x.begin space name).holder = x.holder := rfl

@[simp] theorem holder_finish : (x.finish space name value).holder = x.holder := rfl

theorem files_begin : (x.begin space name).files space' name' =
    if space' = space ∧ name' = name then .begun else x.files space' name' := rfl

theorem files_finish : (x.finish space name value).files space' name' =
    if space' = space ∧ name' = name then .complete value else x.files space' name' := rfl

end Lookup

end LaunchDirectory

section World

variable {W : Type} [DecidableEq W]

/-- What a command may answer, and the root it leaves; a write that fails may leave anything. -/
def launchAnswers (w : W) (s : LaunchRoot W) : (c : LaunchCall) → c.Answer → LaunchRoot W → Prop
  | .lockJournal d, .ok (), t => (s d).holder = none ∧ t = Function.update s d ((s d).hold (some w))
  | .entryExists r, .ok found, t => t = s ∧ (found = true ↔ (s r.directory).files r.space r.name ≠ .absent)
  | .readJson r, .ok value, t => t = s ∧ (s r.directory).files r.space r.name = .complete value
  | .createNew r, .ok (), t => (s r.directory).files r.space r.name = .absent ∧
      t = Function.update s r.directory ((s r.directory).begin r.space r.name)
  | .writeAll r value, .ok (), t =>
      t = Function.update s r.directory ((s r.directory).finish r.space r.name value)
  | .writeAll r _, .error _, t => t = s ∨
      ∃ left, t = Function.update s r.directory ((s r.directory).finish r.space r.name left)
  | .send departure, _, t => t = Function.update s departure.directory
      ((s departure.directory).record (.sent departure.space departure.stage departure.manifest))
  | _, _, t => t = s

/-- A process that ends gives its locks back. -/
def releaseLocks (w : W) (s : LaunchRoot W) : LaunchRoot W := fun d =>
  if (s d).holder = some w then (s d).hold none else s d

end World

/-- The namespaces that close a namespace. -/
def Namespace.later : Namespace → List Namespace
  | original => [.recreate, .continuation]
  | recreate => [.continuation]
  | continuation => []

/-! ## What the log says -/

/-- What must stand before a request departs. -/
structure Justified (log : List LaunchEvent) (space : Namespace) (stage : Stage) (manifest : Json) : Prop where
  /-- The stage departs once in its namespace. -/
  once : ∀ m, .sent space stage m ∉ log
  /-- A continuation creates nothing. -/
  create : stage = .create → space ≠ .continuation
  /-- The deposit departs once in the directory. -/
  deposit : stage = .fund → ∀ space' m, .sent space' .fund m ∉ log
  attempted : ∃ value, .written space (.attempted stage) value ∈ log
  afterBids : stage = .fund → ∃ value, .written space (.receipt .bids) value ∈ log
  afterFund : stage = .start → ∃ value, .written space (.receipt .fund) value ∈ log
  manifest : .written space .manifest manifest ∈ log
  /-- No later namespace was opened. -/
  latest : ∀ later ∈ space.later, .begun later .manifest ∉ log

/-- What has to happen before an event. -/
def LaunchJustified (log : List LaunchEvent) : LaunchEvent → Prop
  | .begun space name => .begun space name ∉ log
  | .written space name _ => .begun space name ∈ log ∧ ∀ value, .written space name value ∉ log
  | .sent space stage manifest => Justified log space stage manifest

/-- A request of a stage was sent. -/
def LaunchEvent.isRequest (space : Namespace) (stage : Stage) : LaunchEvent → Bool
  | .sent space' stage' _ => decide (space' = space ∧ stage' = stage)
  | _ => false

/-- A deposit was sent. -/
def LaunchEvent.isDeposit : LaunchEvent → Bool
  | .sent _ stage _ => decide (stage = .fund)
  | _ => false

/-- The log of a directory and its records agree. -/
structure DirectoryInv {W : Type} (x : LaunchDirectory W) : Prop where
  orderly : Orderly LaunchJustified x.log
  absent : ∀ space name, x.files space name = .absent ↔ .begun space name ∉ x.log
  complete : ∀ space name value, x.files space name = .complete value ↔ .written space name value ∈ x.log

namespace DirectoryInv

variable {W : Type} {x : LaunchDirectory W} {space : Namespace} {name : RecordName} {value : Json} {stage : Stage}

theorem written_of_complete (hx : DirectoryInv x) (h : x.files space name = .complete value) :
    .written space name value ∈ x.log := (hx.complete ..).mp h

theorem not_written_of_absent (hx : DirectoryInv x) (h : x.files space name = .absent) :
    .written space name value ∉ x.log := by
  intro hwritten
  rw [← hx.complete, h] at hwritten
  cases hwritten

theorem not_sent_of_absent (hx : DirectoryInv x) (h : x.files space (.attempted stage) = .absent)
    (manifest : Json) : .sent space stage manifest ∉ x.log := by
  intro hsent
  obtain ⟨before, after, hlog⟩ := List.append_of_mem hsent
  obtain ⟨value, hwritten⟩ := (hx.orderly before _ after hlog).attempted
  exact hx.not_written_of_absent h (hlog ▸ List.mem_append_left _ hwritten)

theorem not_sent_of_no_manifest (hx : DirectoryInv x) (h : x.files space .manifest = .absent)
    (manifest : Json) : .sent space stage manifest ∉ x.log := by
  intro hsent
  obtain ⟨before, after, hlog⟩ := List.append_of_mem hsent
  have hwritten := (hx.orderly before _ after hlog).manifest
  exact hx.not_written_of_absent h (hlog ▸ List.mem_append_left _ hwritten)

theorem begin (hx : DirectoryInv x) (h : x.files space name = .absent) : DirectoryInv (x.begin space name) where
  orderly := hx.orderly.snoc ((hx.absent ..).mp h)
  absent space' name' := by
    rw [LaunchDirectory.files_begin, LaunchDirectory.log_begin, List.mem_append, List.mem_singleton]
    split
    · rename_i heq
      simp [heq]
    · rename_i hne
      rw [hx.absent]
      simp only [LaunchEvent.begun.injEq]
      tauto
  complete space' name' value := by
    rw [LaunchDirectory.files_begin, LaunchDirectory.log_begin, List.mem_append, List.mem_singleton]
    split
    · rename_i heq
      obtain ⟨rfl, rfl⟩ := heq
      simpa using hx.not_written_of_absent h
    · rw [hx.complete]
      simp

theorem finish (hx : DirectoryInv x) (h : x.files space name = .begun) (value : Json) :
    DirectoryInv (x.finish space name value) where
  orderly := by
    refine hx.orderly.snoc ⟨?_, fun value' hwritten => ?_⟩
    · by_contra hbegun
      rw [← hx.absent, h] at hbegun
      cases hbegun
    · rw [← hx.complete, h] at hwritten
      cases hwritten
  absent space' name' := by
    rw [LaunchDirectory.files_finish, LaunchDirectory.log_finish, List.mem_append, List.mem_singleton]
    split
    · rename_i heq
      obtain ⟨rfl, rfl⟩ := heq
      simpa [h] using hx.absent space' name'
    · rw [hx.absent]
      simp
  complete space' name' value' := by
    rw [LaunchDirectory.files_finish, LaunchDirectory.log_finish, List.mem_append, List.mem_singleton]
    split
    · rename_i heq
      obtain ⟨rfl, rfl⟩ := heq
      have := hx.complete space' name' value'
      rw [h] at this
      simp [← this, eq_comm]
    · rename_i hne
      rw [hx.complete]
      simp only [LaunchEvent.written.injEq]
      tauto

theorem sent (hx : DirectoryInv x) {manifest : Json} (h : Justified x.log space stage manifest) :
    DirectoryInv (x.record (.sent space stage manifest)) where
  orderly := hx.orderly.snoc h
  absent space' name' := by
    rw [LaunchDirectory.record, List.mem_append, List.mem_singleton]
    simpa using hx.absent space' name'
  complete space' name' value := by
    rw [LaunchDirectory.record, List.mem_append, List.mem_singleton]
    simpa using hx.complete space' name' value

theorem hold (hx : DirectoryInv x) (holder : Option W) : DirectoryInv (x.hold holder) :=
  ⟨hx.orderly, hx.absent, hx.complete⟩

/-- A stage departs at most once in its namespace. -/
theorem countP_request_le_one (hx : DirectoryInv x) (space : Namespace) (stage : Stage) :
    x.log.countP (LaunchEvent.isRequest space stage) ≤ 1 := by
  refine hx.orderly.countP_le_one fun before e he hp e' he' hp' => ?_
  cases e with
  | begun space' name => cases hp
  | written space' name value => cases hp
  | sent space' stage' m =>
    cases e' with
    | begun space'' name => cases hp'
    | written space'' name value => cases hp'
    | sent space'' stage'' m' =>
      obtain ⟨rfl, rfl⟩ := of_decide_eq_true hp
      obtain ⟨rfl, rfl⟩ := of_decide_eq_true hp'
      exact he.once m' he'

theorem countP_deposit_le_one (hx : DirectoryInv x) :
    x.log.countP LaunchEvent.isDeposit ≤ 1 := by
  refine hx.orderly.countP_le_one fun before e he hp e' he' hp' => ?_
  cases e with
  | begun space' name => cases hp
  | written space' name value => cases hp
  | sent space' stage' m =>
    cases e' with
    | begun space'' name => cases hp'
    | written space'' name value => cases hp'
    | sent space'' stage'' m' =>
      obtain rfl := of_decide_eq_true hp
      obtain rfl := of_decide_eq_true hp'
      exact he.deposit rfl space'' m' he'

end DirectoryInv

/-- Processes on one root; nobody touches a directory that another process holds. -/
def launchShared (W : Type) : Shared (LaunchRoot W) W LaunchCall LaunchCall.Answer where
  answers := launchAnswers
  inv s := ∀ d, DirectoryInv (s d)
  evolves _ _ := True
  spares w s t := ∀ d, (s d).holder = some w → t d = s d
  evolves_refl _ := trivial
  evolves_trans _ _ := trivial
  spares_refl _ _ _ _ := rfl
  spares_trans := by
    intro w s t u _ _ hst htu d hd
    rw [htu d (by rw [hst d hd]; exact hd), hst d hd]

section Answers

variable {W : Type} {w : W} {s t : LaunchRoot W}

theorem launchAnswers_read {c : LaunchCall} (hc : c.IsRead) {a : c.Answer} (h : launchAnswers w s c a t) :
    t = s := by
  cases c with
  | checkRoot => exact h
  | lockAccount account => exact h
  | openDirectory directory writable => exact h
  | lockJournal directory => cases hc
  | entryExists record =>
    cases a with
    | error e => exact h
    | ok found => exact h.1
  | readJson record =>
    cases a with
    | error e => exact h
    | ok value => exact h.1
  | createNew record => cases hc
  | writeAll record value => cases hc
  | now => exact h
  | observe read => exact h
  | prepareWrite departure => exact h
  | admitWrite departure => exact h
  | send departure => cases hc

theorem allowed_update {d : String} {y : LaunchDirectory W} (hs : (launchShared W).inv s)
    (hholder : ∀ w', w' ≠ w → (s d).holder ≠ some w') (hy : DirectoryInv y) :
    (launchShared W).Allowed w s (Function.update s d y) := by
  refine ⟨fun d' => ?_, trivial, fun w' hne d' hd' => ?_⟩
  · by_cases hd : d' = d
    · subst hd
      rw [Function.update_self]
      exact hy
    · rw [Function.update_of_ne hd]
      exact hs d'
  · by_cases hd : d' = d
    · subst hd
      exact absurd hd' (hholder w' hne)
    · rw [Function.update_of_ne hd]

end Answers

/-! ## The process that holds a directory -/

section Holder

variable {W α β : Type} {w : W} {d : String} {x : LaunchDirectory W}

/-- The directory of the journal that a process opened for writing. -/
def locked (w : W) (d : String) : Part (launchShared W) w (LaunchDirectory W) where
  view s := s d
  held x := x.holder = some w
  kept hst hd := hst.2 d hd
  ok := DirectoryInv
  ok_view hs := hs d

theorem locked_reads {p : LaunchProg α} (hp : Reads p) : (locked w d).Holds p x fun _ y => y = x :=
  Part.holds_reads hp fun _ hc _ _ _ => launchAnswers_read hc

theorem locked_reads_bind {p : LaunchProg α} {f : α → LaunchProg β} {Q : β → LaunchDirectory W → Prop}
    (hp : Reads p) (hf : ∀ a, (locked w d).Holds (f a) x Q) : (locked w d).Holds (p >>= f) x Q :=
  Part.holds_reads_bind hp (fun _ hc _ _ _ => launchAnswers_read hc) hf

theorem locked_readJson (space : Namespace) (name : RecordName) :
    (locked w d).Holds (readJson ⟨d, space, name⟩) x fun value y => y = x ∧ x.files space name = .complete value := by
  refine Part.Holds.bind (R := fun answer y => y = x ∧
    ∀ value, answer = .ok value → x.files space name = .complete value) (Part.holds_perform ?_) ?_
  · rintro s answer t hs hheld rfl hanswer
    obtain rfl := launchAnswers_read (c := .readJson _) trivial hanswer
    refine ⟨.refl w hs, hheld, rfl, fun value hvalue => ?_⟩
    cases hvalue
    exact hanswer.2
  · rintro answer y ⟨rfl, hvalue⟩
    exact Part.holds_ofExcept fun value hok => ⟨rfl, hvalue value hok⟩

theorem locked_exists (space : Namespace) (name : RecordName) :
    (locked w d).Holds (LaunchCall.entryExists ⟨d, space, name⟩).ask x fun answer y => y = x ∧
      (answer = .ok false → x.files space name = .absent) := by
  refine Part.holds_perform ?_
  rintro s answer t hs hheld rfl hanswer
  obtain rfl := launchAnswers_read (c := .entryExists _) trivial hanswer
  refine ⟨.refl w hs, hheld, rfl, ?_⟩
  rintro rfl
  by_contra hfile
  have := hanswer.2.mpr hfile
  cases this

theorem locked_entryExists (space : Namespace) (name : RecordName) :
    (locked w d).Holds (entryExists ⟨d, space, name⟩) x fun found y => y = x ∧
      (found = false → x.files space name = .absent) := by
  refine (locked_exists space name).bind ?_
  rintro answer y ⟨rfl, habsent⟩
  refine Part.holds_ofExcept fun found hfound => ⟨rfl, ?_⟩
  rintro rfl
  exact habsent hfound

theorem locked_forbid (space : Namespace) (message : String) (names : List RecordName) :
    (locked w d).Holds (forbid d space message names) x fun _ y => y = x ∧
      ∀ name ∈ names, x.files space name = .absent := by
  induction names with
  | nil => exact Part.holds_pure ⟨rfl, List.forall_mem_nil _⟩
  | cons name names ih =>
    refine (locked_entryExists space name).bind ?_
    rintro found y ⟨rfl, habsent⟩
    refine Part.holds_ofExcept_bind fun _ hfound => ih.mono ?_
    rintro _ y ⟨rfl, hnames⟩
    exact ⟨rfl, List.forall_mem_cons.mpr ⟨habsent (ensure_eq_ok.mp hfound), hnames⟩⟩

/-- No trading was attempted before the continuation. -/
def Untraded (x : LaunchDirectory W) : Prop :=
  ∀ name ∈ tradingRecords, x.files .original name = .absent ∧ x.files .recreate name = .absent

theorem locked_continuationValidate (f : LaunchFormat) (value : Json) :
    (locked w d).Holds (continuationValidate f d value) x fun _ y => y = x ∧ Untraded x := by
  unfold continuationValidate
  refine Part.holds_ofExcept_bind fun manifest _ => Part.holds_ofExcept_bind fun approval _ => ?_
  refine Part.holds_ofExcept_bind fun _ _ => locked_reads_bind (reads_readEvidence ..) fun manifestRecord => ?_
  refine locked_reads_bind (reads_readEvidence ..) fun attempt => ?_
  refine locked_reads_bind (reads_readEvidence ..) fun receipt => ?_
  refine locked_reads_bind (reads_readEvidence ..) fun policy => ?_
  refine locked_reads_bind (reads_recreateValidate ..) fun _ => Part.holds_ofExcept_bind fun previous _ => ?_
  refine Part.holds_ofExcept_bind fun attemptedAt _ => Part.holds_ofExcept_bind fun _ _ => ?_
  refine (locked_forbid .original _ _).bind ?_
  rintro _ y ⟨rfl, horiginal⟩
  refine (locked_forbid .recreate _ _).bind ?_
  rintro _ y ⟨rfl, hrecreate⟩
  refine locked_reads_bind (reads_entryExists _) fun found => ?_
  refine Part.Holds.mono (locked_reads ?_) fun _ y hy =>
    ⟨hy, fun name hname => ⟨horiginal name hname, hrecreate name hname⟩⟩
  split
  · exact (reads_readJson _).bind fun recorded => Prog.asks_ofExcept _ _
  · trivial

/-! ## Records -/

/-- What the creation of a record required, and what it left. -/
structure Recorded (journal : Journal) (name : RecordName) (value : Json) (x y : LaunchDirectory W) : Prop where
  absent : x.files (journal.space name) name = .absent
  result : y = (x.begin (journal.space name) name).finish (journal.space name) name value
  continuation : journal.continuation = true → name.startsWith .create = false ∧ Untraded x
  recovery : journal.recovery = true → name.startsWith .fund = false ∧ name.startsWith .start = false

theorem locked_createNew (space : Namespace) (name : RecordName) :
    (locked w d).Holds (LaunchCall.createNew ⟨d, space, name⟩).ask x fun answer y =>
      answer = .ok () → x.files space name = .absent ∧ y = x.begin space name := by
  refine Part.holds_perform ?_
  rintro s answer t hs (hheld : (s d).holder = some w) rfl hanswer
  cases answer with
  | error e =>
    obtain rfl : t = s := hanswer
    exact ⟨.refl w hs, hheld, fun hok => (by cases hok)⟩
  | ok _ =>
    obtain ⟨habsent, rfl⟩ := hanswer
    refine ⟨allowed_update hs (fun w' hne => ?_) ((hs d).begin habsent), ?_⟩
    · rw [hheld]
      exact fun heq => hne (Option.some.inj heq).symm
    · simp [locked, hheld, habsent]

theorem locked_writeAll {space : Namespace} {name : RecordName} (hfile : x.files space name = .begun)
    (value : Json) : (locked w d).Holds (LaunchCall.writeAll ⟨d, space, name⟩ value).ask x fun answer y =>
      answer = .ok () → y = x.finish space name value := by
  refine Part.holds_perform ?_
  rintro s answer t hs (hheld : (s d).holder = some w) rfl hanswer
  have hallowed (left : Json) : (launchShared W).Allowed w s
      (Function.update s d ((s d).finish space name left)) := by
    refine allowed_update hs (fun w' hne => ?_) ((hs d).finish hfile left)
    rw [hheld]
    exact fun heq => hne (Option.some.inj heq).symm
  cases answer with
  | error e =>
    rcases hanswer with rfl | ⟨left, rfl⟩
    · exact ⟨.refl w hs, hheld, fun hok => (by cases hok)⟩
    · exact ⟨hallowed left, by simp [locked, hheld], fun hok => (by cases hok)⟩
  | ok _ =>
    obtain rfl := hanswer
    exact ⟨hallowed value, by simp [locked, hheld], fun _ => by simp [locked]⟩

/-- **A record is created once**, and only where its namespace allows it. -/
theorem locked_record (journal : Journal) (f : LaunchFormat) (name : RecordName) (value : Json) :
    (locked w journal.directory).Holds (journal.record f name value) x fun _ y =>
      Recorded journal name value x y := by
  unfold Journal.record
  refine Part.holds_ofExcept_bind fun _ _ => ?_
  refine Part.Holds.bind (R := fun _ y => y = x ∧ (journal.continuation = true →
    name.startsWith .create = false ∧ Untraded x)) (Part.holds_when (fun _ => ?_) fun hc => ?_) ?_
  · refine Part.holds_ofExcept_bind fun _ hcreate => ?_
    have hvalidate (manifest : Json) : (locked w journal.directory).Holds
        (continuationValidate f journal.directory manifest) x fun _ y => y = x ∧
          (journal.continuation = true → name.startsWith .create = false ∧ Untraded x) := by
      refine (locked_continuationValidate f manifest).mono ?_
      rintro _ y ⟨hy, huntraded⟩
      exact ⟨hy, fun _ => ⟨ensure_eq_ok.mp hcreate, huntraded⟩⟩
    split
    · exact hvalidate value
    · exact locked_reads_bind (reads_readJson _) hvalidate
  · exact ⟨rfl, fun hc' => by rw [hc] at hc'; cases hc'⟩
  rintro _ y ⟨rfl, hcontinuation⟩
  refine Part.holds_ofExcept_bind fun _ hrecovery => (locked_createNew _ name).bind fun answer z hz => ?_
  refine Part.holds_ofExcept_bind fun _ hanswer => ?_
  obtain ⟨habsent, rfl⟩ := hz hanswer
  refine (locked_writeAll (by simp [LaunchDirectory.files_begin]) value).bind fun answer z hz => ?_
  refine Part.holds_ofExcept fun _ hanswer => ⟨habsent, hz hanswer, hcontinuation, fun hr => ?_⟩
  rcases ensure_eq_ok.mp hrecovery with h | h
  · rw [h] at hr
    cases hr
  · exact h

/-- The attempt of a stage is the last thing that happens before its request. -/
theorem locked_attempt (journal : Journal) (f : LaunchFormat) (stage : Stage) (evidence : Json) :
    (locked w journal.directory).Holds (journal.attempt f stage evidence) x fun _ y =>
      ∃ value, Recorded journal (.attempted stage) value x y := by
  unfold Journal.attempt
  refine locked_reads_bind (journal.reads_assertNotAttempted stage) fun _ => locked_reads_bind ?_ fun _ => ?_
  · exact .when fun _ => (reads_readJson _).bind fun manifest => reads_recreateValidate ..
  · refine locked_reads_bind (reads_ask trivial) fun now => ?_
    exact (locked_record journal f _ _).mono fun _ y hy => ⟨_, hy⟩

/-! ## Requests -/

/-- A journal that was opened for writing: its manifest is recorded, and no later namespace was opened. -/
structure Opened (journal : Journal) (manifest : Json) (x : LaunchDirectory W) : Prop where
  recorded : x.files journal.launch .manifest = .complete manifest
  latest : ∀ later ∈ journal.launch.later, x.files later .manifest = .absent

/-- The receipts that a stage needs. -/
def Ready (journal : Journal) (stage : Stage) (x : LaunchDirectory W) : Prop :=
  (stage = .fund → ∃ value, x.files journal.launch (.receipt .bids) = .complete value) ∧
    (stage = .start → ∃ value, x.files journal.launch (.receipt .fund) = .complete value)

theorem space_eq_launch {journal : Journal} {name : RecordName}
    (h : journal.continuation = true → name.startsWith .create = false) :
    journal.space name = journal.launch := by
  unfold Journal.space Journal.launch
  cases hc : journal.continuation with
  | true => simp [h hc]
  | false => simp

theorem launch_cases (journal : Journal) :
    journal.continuation = true ∧ journal.launch = .continuation ∨
      journal.continuation = false ∧ journal.recovery = true ∧ journal.launch = .recreate ∨
      journal.continuation = false ∧ journal.recovery = false ∧ journal.launch = .original := by
  unfold Journal.launch
  cases journal.continuation <;> cases journal.recovery <;> simp

/-- The attempt of a deposit excludes every other deposit of the directory. -/
theorem Opened.no_deposit {journal : Journal} {manifest value : Json} {y : LaunchDirectory W}
    (hx : DirectoryInv x) (h : Opened journal manifest x) (hy : Recorded journal (.attempted .fund) value x y)
    (space : Namespace) (m : Json) : .sent space .fund m ∉ x.log := by
  have habsent := hy.absent
  rw [space_eq_launch fun hc => (hy.continuation hc).1] at habsent
  rcases launch_cases journal with ⟨hc, hlaunch⟩ | ⟨-, hr, -⟩ | ⟨-, -, hlaunch⟩
  · have huntraded := (hy.continuation hc).2 (.attempted .fund) (by simp [tradingRecords])
    cases space with
    | original => exact hx.not_sent_of_absent huntraded.1 m
    | recreate => exact hx.not_sent_of_absent huntraded.2 m
    | continuation => exact hx.not_sent_of_absent (hlaunch ▸ habsent) m
  · exact absurd (hy.recovery hr).1 (by simp [RecordName.startsWith])
  · have hlatest := h.latest
    rw [hlaunch] at hlatest
    cases space with
    | original => exact hx.not_sent_of_absent (hlaunch ▸ habsent) m
    | recreate => exact hx.not_sent_of_no_manifest (hlatest .recreate (by simp [Namespace.later])) m
    | continuation => exact hx.not_sent_of_no_manifest (hlatest .continuation (by simp [Namespace.later])) m

/-- **The attempt of an opened journal justifies the request of its stage.** -/
theorem Opened.justified {journal : Journal} {manifest value : Json} {stage : Stage} {y : LaunchDirectory W}
    (hx : DirectoryInv x) (h : Opened journal manifest x) (hready : Ready journal stage x)
    (hy : Recorded journal (.attempted stage) value x y) : Justified y.log journal.launch stage manifest := by
  have hspace : journal.space (.attempted stage) = journal.launch :=
    space_eq_launch fun hc => (hy.continuation hc).1
  have habsent := hy.absent
  rw [hspace] at habsent
  have hlog : y.log = x.log ++ [.begun journal.launch (.attempted stage),
      .written journal.launch (.attempted stage) value] := by
    rw [hy.result, hspace]
    simp
  have hsent (space : Namespace) (stage' : Stage) (m : Json) (hm : .sent space stage' m ∉ x.log) :
      .sent space stage' m ∉ y.log := by simpa [hlog] using hm
  have hwritten {space : Namespace} {name : RecordName} {v : Json} (hv : x.files space name = .complete v) :
      .written space name v ∈ y.log := by
    rw [hlog]
    exact List.mem_append_left _ (hx.written_of_complete hv)
  refine ⟨fun m => hsent _ _ m (hx.not_sent_of_absent habsent m), ?_, ?_, ⟨value, by simp [hlog]⟩, ?_, ?_,
    hwritten h.recorded, ?_⟩
  · rintro rfl hlaunch
    rcases launch_cases journal with ⟨hc, -⟩ | ⟨-, -, hlaunch'⟩ | ⟨-, -, hlaunch'⟩
    · exact absurd (hy.continuation hc).1 (by simp [RecordName.startsWith])
    · rw [hlaunch] at hlaunch'
      cases hlaunch'
    · rw [hlaunch] at hlaunch'
      cases hlaunch'
  · rintro rfl space m
    exact hsent _ _ m (h.no_deposit hx hy space m)
  · intro hstage
    obtain ⟨v, hv⟩ := hready.1 hstage
    exact ⟨v, hwritten hv⟩
  · intro hstage
    obtain ⟨v, hv⟩ := hready.2 hstage
    exact ⟨v, hwritten hv⟩
  · intro later hlater
    have := (hx.absent ..).mp (h.latest later hlater)
    simpa [hlog] using this

/-- A program that keeps to its directory from every state. -/
abbrev Tame (w : W) (d : String) (p : LaunchProg α) : Prop :=
  ∀ x, (locked w d).Holds p x fun _ _ => True

theorem tame_reads {p : LaunchProg α} (hp : Reads p) : Tame w d p :=
  fun _ => (locked_reads hp).mono fun _ _ _ => trivial

theorem tame_record (journal : Journal) (f : LaunchFormat) (name : RecordName) (value : Json) :
    Tame w journal.directory (journal.record f name value) :=
  fun _ => (locked_record journal f name value).mono fun _ _ _ => trivial

theorem Tame.bind {p : LaunchProg α} {f : α → LaunchProg β} (hp : Tame w d p) (hf : ∀ a, Tame w d (f a)) :
    Tame w d (p >>= f) := fun x => (hp x).bind fun a y _ => hf a y

theorem tame_ofExcept_bind {e : Except String α} {f : α → LaunchProg β} (hf : ∀ a, Tame w d (f a)) :
    Tame w d (Prog.ofExcept e >>= f) := fun x => Part.holds_ofExcept_bind fun a _ => hf a x

theorem locked_send {space : Namespace} {stage : Stage} {manifest : Json}
    (h : DirectoryInv x → Justified x.log space stage manifest) :
    (locked w d).Holds (LaunchCall.send ⟨d, space, stage, manifest⟩).ask x fun _ _ => True := by
  refine Part.holds_perform ?_
  rintro s answer t hs (hheld : (s d).holder = some w) rfl hanswer
  obtain rfl : t = Function.update s d ((s d).record (.sent space stage manifest)) := hanswer
  refine ⟨allowed_update hs (fun w' hne => ?_) ((hs d).sent (h (hs d))), ?_, trivial⟩
  · rw [hheld]
    exact fun heq => hne (Option.some.inj heq).symm
  · simpa [locked, LaunchDirectory.record] using hheld

/-- **A guarded request departs only when its permit justifies it.** -/
theorem locked_guardedWrite {space : Namespace} {stage : Stage} {manifest : Json} {permit : LaunchProg Unit}
    (hpermit : (locked w d).Holds permit x fun _ y => DirectoryInv y → Justified y.log space stage manifest) :
    (locked w d).Holds (guardedWrite ⟨d, space, stage, manifest⟩ permit) x fun _ _ => True := by
  unfold guardedWrite writeWithPermit
  refine Part.Holds.bind (R := fun _ _ => True) ?_ fun result y _ => Part.holds_ofExcept fun _ _ => trivial
  refine locked_reads_bind (reads_ask trivial) fun prepared => ?_
  cases prepared with
  | error e => exact Part.holds_pure trivial
  | ok _ =>
    refine hpermit.attempt.bind fun permitted y hy => ?_
    cases permitted with
    | error e => exact Part.holds_pure trivial
    | ok _ =>
      refine locked_reads_bind (reads_ask trivial) fun admitted => ?_
      cases admitted with
      | error e => exact Part.holds_pure trivial
      | ok _ =>
        refine (locked_send (hy () rfl)).bind fun sent z _ => ?_
        cases sent with
        | error e => exact Part.holds_pure trivial
        | ok receipt => exact Part.holds_pure trivial

/-! ## The stages -/

variable {journal : Journal} {f : LaunchFormat} {operator : Operator}

theorem locked_permit {stage : Stage} {evidence manifest : Json} (hopened : Opened journal manifest x)
    (hready : Ready journal stage x) :
    (locked w journal.directory).Holds (journal.attempt f stage evidence) x fun _ y =>
      DirectoryInv y → Justified y.log journal.launch stage manifest := by
  refine Part.holds_intro fun _ hx => (locked_attempt journal f stage evidence).mono ?_
  rintro _ y ⟨value, hy⟩ -
  exact hopened.justified hx hready hy

theorem ready_of_ne {stage : Stage} (hfund : stage ≠ .fund) (hstart : stage ≠ .start) : Ready journal stage x :=
  ⟨fun h => absurd h hfund, fun h => absurd h hstart⟩

theorem locked_create (hopened : Opened journal (f.value operator.manifest) x) :
    (locked w journal.directory).Holds (operator.create f journal) x fun _ _ => True := by
  unfold Operator.create
  refine Part.holds_ofExcept_bind fun _ _ => locked_reads_bind (journal.reads_assertNotAttempted _) fun _ => ?_
  refine locked_reads_bind (operator.reads_preflight f none) fun preflight => ?_
  refine Part.Holds.bind (R := fun _ _ => True) (locked_guardedWrite ?_) fun id y _ => ?_
  · have hattempt (evidence : Json) : (locked w journal.directory).Holds (do
        observe .freshAuthorization
        journal.attempt f .create evidence) x fun _ y =>
          DirectoryInv y → Justified y.log journal.launch .create (f.value operator.manifest) :=
      locked_reads_bind (reads_observe _) fun _ => locked_permit hopened (ready_of_ne (by decide) (by decide))
    split
    · exact locked_reads_bind (operator.reads_preflight f none) hattempt
    · exact hattempt preflight
  · refine Tame.bind (tame_record journal f _ _) (fun _ => ?_) y
    refine Tame.bind (tame_reads (operator.reads_inactive id false)) fun _ => ?_
    refine Tame.bind (tame_reads (Operator.reads_ensureBudget ..)) fun _ => ?_
    refine Tame.bind (tame_record journal f _ _) fun _ => ?_
    exact tame_reads (Operator.reads_reconcile journal)

theorem locked_bids (hopened : Opened journal (f.value operator.manifest) x) :
    (locked w journal.directory).Holds (operator.bids f journal) x fun _ _ => True := by
  unfold Operator.bids
  refine locked_reads_bind journal.reads_campaignId fun id => ?_
  refine locked_reads_bind (journal.reads_assertNotAttempted _) fun _ => locked_reads_bind ?_ fun _ => ?_
  · refine .when fun _ => (journal.reads_requireReceipt _).bind fun policy => .ofExcept_bind fun _ => ?_
    exact (operator.reads_preflight f _).bind fun _ => trivial
  refine locked_reads_bind (operator.reads_inactive id false) fun before => ?_
  refine locked_reads_bind (Operator.reads_ensureBudget ..) fun _ => ?_
  refine locked_reads_bind (reads_observe _) fun _ => Part.holds_ofExcept_bind fun changes _ => ?_
  refine Part.Holds.bind (R := fun _ _ => True) (locked_guardedWrite ?_) fun total y _ => ?_
  · refine locked_reads_bind (reads_observe _) fun _ => ?_
    refine locked_reads_bind (operator.reads_inactive id false) fun current => ?_
    refine Part.holds_ofExcept_bind fun _ _ => locked_reads_bind (Operator.reads_ensureBudget ..) fun _ => ?_
    refine locked_reads_bind (reads_observe _) fun _ => ?_
    exact locked_permit hopened (ready_of_ne (by decide) (by decide))
  · refine Tame.bind (tame_reads (operator.reads_inactive id true)) (fun _ => ?_) y
    refine Tame.bind (tame_record journal f _ _) fun _ => ?_
    exact tame_reads (Operator.reads_reconcile journal)

theorem locked_requireReceipt {name : RecordName} (hname : name.startsWith .create = false) :
    (locked w journal.directory).Holds (journal.requireReceipt name) x fun value y => y = x ∧
      x.files journal.launch name = .complete value := by
  rw [← space_eq_launch fun _ => hname]
  exact locked_readJson _ _

theorem locked_fund (hopened : Opened journal (f.value operator.manifest) x) :
    (locked w journal.directory).Holds (operator.fund f journal) x fun _ _ => True := by
  unfold Operator.fund
  refine Part.holds_ofExcept_bind fun _ _ => locked_reads_bind journal.reads_campaignId fun id => ?_
  refine locked_reads_bind (journal.reads_assertNotAttempted _) fun _ => ?_
  refine (locked_requireReceipt rfl).bind ?_
  rintro receipt y ⟨rfl, hbids⟩
  refine locked_reads_bind (operator.reads_inactive id true) fun initial => ?_
  refine Part.holds_ofExcept_bind fun _ _ => locked_reads_bind (reads_observe _) fun _ => ?_
  refine locked_reads_bind (operator.reads_preflight f _) fun preflight => ?_
  refine Part.Holds.bind (R := fun _ _ => True) (locked_guardedWrite ?_) fun total z _ => ?_
  · refine locked_reads_bind (reads_observe _) fun _ => locked_reads_bind (reads_observe _) fun _ => ?_
    refine locked_reads_bind (operator.reads_inactive id true) fun current => ?_
    refine Part.holds_ofExcept_bind fun _ _ => locked_reads_bind (Operator.reads_ensureBudget ..) fun _ => ?_
    refine locked_reads_bind (reads_observe _) fun balance => Part.holds_ofExcept_bind fun _ _ => ?_
    refine locked_reads_bind (reads_observe _) fun _ => locked_reads_bind (reads_observe _) fun _ => ?_
    exact locked_permit hopened ⟨fun _ => ⟨receipt, hbids⟩, fun hstage => (by cases hstage)⟩
  · refine Tame.bind (tame_record journal f _ _) (fun _ => tame_ofExcept_bind fun _ => ?_) z
    refine Tame.bind (tame_reads (Operator.reads_ensureBudget ..)) fun _ => ?_
    refine Tame.bind (tame_reads (operator.reads_inactive id true)) fun _ => ?_
    refine Tame.bind (tame_reads (reads_ask trivial)) fun now => ?_
    refine Tame.bind (tame_record journal f _ _) fun _ => ?_
    exact tame_reads (Operator.reads_reconcile journal)

theorem locked_executeStart (hopened : Opened journal (f.value operator.manifest) x) (id : ℕ) :
    (locked w journal.directory).Holds (operator.executeStart f journal id) x fun _ _ => True := by
  unfold Operator.executeStart
  refine Part.holds_ofExcept_bind fun _ _ => locked_reads_bind (journal.reads_assertNotAttempted _) fun _ => ?_
  refine (locked_requireReceipt rfl).bind ?_
  rintro receipt y ⟨rfl, hfund⟩
  refine locked_reads_bind journal.reads_campaignId fun confirmed => Part.holds_ofExcept_bind fun _ _ => ?_
  refine locked_reads_bind (reads_observe _) fun _ => ?_
  refine Part.Holds.bind (R := fun _ _ => True) (locked_guardedWrite ?_) fun total z _ => ?_
  · refine locked_reads_bind (reads_observe _) fun _ => ?_
    refine locked_reads_bind (reads_observe _) fun snapshot => ?_
    refine locked_reads_bind (operator.reads_inactive id true) fun current => ?_
    refine Part.holds_ofExcept_bind fun _ _ => locked_reads_bind ?_ fun _ => ?_
    · exact .when fun _ => (operator.reads_validateReceipts journal id).bind fun _ => reads_observe _
    refine locked_reads_bind (reads_observe _) fun _ => locked_reads_bind (reads_observe _) fun _ => ?_
    exact locked_permit hopened ⟨fun hstage => (by cases hstage), fun _ => ⟨receipt, hfund⟩⟩
  · refine Tame.bind (tame_reads (reads_observe _)) (fun state => tame_ofExcept_bind fun _ => ?_) z
    refine Tame.bind (tame_reads (reads_observe _)) fun budget => tame_ofExcept_bind fun _ => ?_
    refine Tame.bind (tame_reads (reads_ask trivial)) fun now => ?_
    refine Tame.bind (tame_record journal f _ _) fun _ => ?_
    exact tame_reads (Operator.reads_reconcile journal)

theorem locked_start (hopened : Opened journal (f.value operator.manifest) x) :
    (locked w journal.directory).Holds (operator.start f journal) x fun _ _ => True := by
  unfold Operator.start
  refine Part.holds_ofExcept_bind fun _ _ => locked_reads_bind journal.reads_campaignId fun id => ?_
  refine locked_reads_bind (journal.reads_assertNotAttempted _) fun _ => ?_
  refine locked_reads_bind (journal.reads_requireReceipt _) fun funded => ?_
  refine locked_reads_bind (operator.reads_inactive id true) fun state => Part.holds_ofExcept_bind fun _ _ => ?_
  refine locked_reads_bind (.when fun _ => operator.reads_validateReceipts journal id) fun _ => ?_
  exact locked_reads_bind (reads_observe _) fun _ => locked_executeStart hopened id

theorem tame_prepareContinuation (operator : Operator) (f : LaunchFormat) (journal : Journal) :
    Tame w journal.directory (operator.prepareContinuation f journal) := by
  unfold Operator.prepareContinuation
  refine tame_ofExcept_bind fun _ => Tame.bind (tame_reads (journal.reads_assertNotAttempted _)) fun _ => ?_
  refine Tame.bind (tame_reads (journal.reads_assertNotAttempted _)) fun _ => ?_
  refine Tame.bind (tame_reads (journal.reads_assertNotAttempted _)) fun _ => ?_
  refine Tame.bind (tame_reads journal.reads_campaignId) fun id => ?_
  refine Tame.bind (tame_reads (operator.reads_preflight f _)) fun preflight => ?_
  refine Tame.bind (tame_reads (operator.reads_inactive id false)) fun state => tame_ofExcept_bind fun _ => ?_
  refine Tame.bind (tame_reads (Operator.reads_ensureBudget ..)) fun _ => ?_
  refine Tame.bind (tame_reads (reads_observe _)) fun _ => Tame.bind (tame_reads (reads_observe _)) fun _ => ?_
  refine Tame.bind (tame_reads (journal.reads_present _)) fun prepared => Tame.bind (tame_reads ?_) fun _ => ?_
  · exact .when fun _ => (journal.reads_requireReceipt _).bind fun recorded => Prog.asks_ofExcept _ _
  · refine Tame.bind (fun y => Part.holds_when (fun _ => tame_record journal f _ _ y) fun _ => trivial) ?_
    exact fun _ y => Part.holds_pure trivial

/-- **A stage under an opened journal keeps the directory orderly.** -/
theorem locked_perform (hopened : Opened journal (f.value operator.manifest) x) (stage : WriteStage) :
    (locked w journal.directory).Holds (operator.perform f journal stage) x fun _ _ => True := by
  cases stage with
  | prepare => exact tame_prepareContinuation operator f journal x
  | stage stage =>
    cases stage with
    | create => exact locked_create hopened
    | bids => exact locked_bids hopened
    | fund => exact locked_fund hopened
    | start => exact locked_start hopened

/-! ## Opening a journal -/

theorem Recorded.files_of_ne {name : RecordName} {value : Json} {y : LaunchDirectory W}
    (h : Recorded journal name value x y) {space : Namespace} (hne : space ≠ journal.space name) :
    y.files space name = x.files space name := by
  rw [h.result, LaunchDirectory.files_finish, LaunchDirectory.files_begin]
  simp [hne]

theorem launch_not_mem_later (journal : Journal) : journal.launch ∉ journal.launch.later := by
  cases journal.launch <;> simp [Namespace.later]

/-- **A journal that opens for writing records its manifest first, and finds no later namespace.** -/
theorem locked_validateOpenAuthorization (journal : Journal) (f : LaunchFormat) (manifest : Json) :
    (locked w journal.directory).Holds (journal.validateOpenAuthorization f manifest true) x fun _ y =>
      Opened journal manifest y := by
  have hlaunch : journal.space .manifest = journal.launch := space_eq_launch fun _ => rfl
  unfold Journal.validateOpenAuthorization
  refine locked_reads_bind (.when fun _ => reads_continuationValidate ..) fun _ => ?_
  refine Part.Holds.bind (R := fun _ y => y = x ∧
    (journal.continuation = false → x.files .continuation .manifest = .absent)) ?_ ?_
  · refine Part.holds_when (fun _ => (locked_forbid _ _ _).mono ?_) fun hc =>
      ⟨rfl, fun hc' => by simp [hc'] at hc⟩
    rintro _ y ⟨rfl, habsent⟩
    exact ⟨rfl, fun _ => habsent _ (by simp)⟩
  rintro _ y ⟨rfl, hcontinuation⟩
  refine locked_reads_bind (.when fun _ => reads_recreateValidate ..) fun _ => ?_
  refine Part.Holds.bind (R := fun _ z => z = y ∧ (journal.continuation = false → journal.recovery = false →
    y.files .recreate .manifest = .absent)) ?_ ?_
  · refine Part.holds_when (fun _ => (locked_forbid _ _ _).mono ?_) fun hc =>
      ⟨rfl, fun hc' hr => by simp [hc', hr] at hc⟩
    rintro _ z ⟨rfl, habsent⟩
    exact ⟨rfl, fun _ _ => habsent _ (by simp)⟩
  rintro _ z ⟨rfl, hrecreate⟩
  have hlatest : ∀ later ∈ journal.launch.later, z.files later .manifest = .absent := by
    rcases launch_cases journal with ⟨-, h⟩ | ⟨hc, -, h⟩ | ⟨hc, hr, h⟩
    · simp [h, Namespace.later]
    · simp [h, Namespace.later, hcontinuation hc]
    · simp [h, Namespace.later, hcontinuation hc, hrecreate hc hr]
  refine Part.Holds.bind (R := fun _ y => ∀ later ∈ journal.launch.later, y.files later .manifest = .absent) ?_ ?_
  · refine (locked_entryExists _ _).bind ?_
    rintro found y ⟨rfl, -⟩
    refine Part.holds_when
      (fun _ => (locked_record journal f _ _).mono fun _ y hy later hlater => ?_) fun _ => hlatest
    rw [hy.files_of_ne, hlatest later hlater]
    rintro rfl
    rw [hlaunch] at hlater
    exact launch_not_mem_later journal hlater
  · intro _ y hy
    refine (locked_readJson _ _).bind ?_
    rintro recorded y ⟨rfl, hrecorded⟩
    refine Part.holds_ofExcept fun _ heq => ⟨?_, hy⟩
    rw [← hlaunch, hrecorded, ensure_eq_ok.mp heq]

theorem safe_reads_bind {p : LaunchProg α} {g : α → LaunchProg β} (hp : Reads p)
    (hg : ∀ a s, (launchShared W).inv s → Safe (launchShared W) w (g a) s) {s : LaunchRoot W} :
    Safe (launchShared W) w (p >>= g) s := by
  refine safe_seq ?_ hg
  exact wp_reads (R := fun _ => True) hp (fun _ hc _ _ _ => launchAnswers_read hc)
    (fun _ _ _ _ => trivial) trivial

theorem safe_lockJournal_bind {g : LaunchProg β} {s : LaunchRoot W}
    (hg : ∀ x, (locked w d).Holds g x fun _ _ => True) : Safe (launchShared W) w (do
      .ofExcept (← (LaunchCall.lockJournal d).ask)
      g) s := by
  intro t _ ht answer u hanswer
  cases answer with
  | error e =>
    obtain rfl : u = t := hanswer
    exact ⟨.refl w ht, fun _ _ _ => trivial⟩
  | ok _ =>
    obtain ⟨hholder, rfl⟩ := hanswer
    refine ⟨allowed_update ht (fun w' _ => by simp [hholder]) ((ht d).hold _), ?_⟩
    refine (hg ((t d).hold (some w))).safe rfl ?_
    exact Function.update_self ..

/-- **Opening a journal for writing**: what follows may rely on the lock, the manifest and the namespace. -/
theorem safe_open {use : Journal → LaunchProg α} {manifest : Json} {s : LaunchRoot W}
    (huse : ∀ journal x, Opened journal manifest x →
      (locked w journal.directory).Holds (use journal) x fun _ _ => True) :
    Safe (launchShared W) w (Journal.open f manifest true >>= use) s := by
  unfold Journal.open
  simp only [Prog.bind_assoc]
  refine safe_reads_bind (reads_ask (c := .checkRoot) trivial) fun _ _ _ => safe_ofExcept_bind fun _ _ => ?_
  refine safe_reads_bind (.when fun _ => .ofExcept_bind fun _ => ?_) fun _ _ _ => ?_
  · exact (reads_ask (c := .lockAccount _) trivial).bind fun _ => Prog.asks_ofExcept _ _
  refine safe_ofExcept_bind fun directory _ => ?_
  refine safe_reads_bind (reads_ask (c := .openDirectory directory true) trivial) fun _ _ _ => ?_
  refine safe_ofExcept_bind fun _ _ => safe_lockJournal_bind fun x => ?_
  refine (locked_validateOpenAuthorization ⟨directory, true, isPresent manifest "recreate",
    isPresent manifest "continue_created"⟩ f manifest).bind fun _ y hy => ?_
  exact huse _ y hy

end Holder

/-! ## Every run -/

/-- What the processes of a root run: the stages of a launch, its outcome, its checks, and journals that are
opened for whatever else. -/
inductive LaunchStart (f : LaunchFormat) : LaunchProg Json → Prop
  | stage (operator : Operator) (stage : WriteStage) : LaunchStart f (runWbCampaignLaunch f operator stage)
  | preflight (operator : Operator) : LaunchStart f (operator.preflight f none)
  | reconcile (manifest : Json) : LaunchStart f (reconcileReadOnly f manifest)
  | journal (manifest : Json) (writable : Bool) : LaunchStart f (do
      let _journal ← Journal.open f manifest writable
      return .null)

/-- An empty root: no record, no lock. -/
def LaunchRoot.empty (W : Type) : LaunchRoot W := fun _ => ⟨fun _ _ => .absent, none, []⟩

/-- Any number of processes on one root, each of which may end at any point. -/
def launchSystem (W : Type) [DecidableEq W] (f : LaunchFormat) :
    Transition.System (Pool (LaunchRoot W) W LaunchCall LaunchCall.Answer String Json) :=
  Process.system (launchShared W) releaseLocks (LaunchStart f) (· = LaunchRoot.empty W)

theorem safe_start {W : Type} {f : LaunchFormat} {p : LaunchProg Json} (hp : LaunchStart f p) (w : W)
    (s : LaunchRoot W) : Safe (launchShared W) w p s := by
  have hsafe {p : LaunchProg Json} (hp : Reads p) : Safe (launchShared W) w p s :=
    wp_reads (R := fun _ => True) hp (fun _ hc _ _ _ => launchAnswers_read hc) (fun _ _ _ _ => trivial) trivial
  cases hp with
  | stage operator stage =>
    refine safe_ofExcept_bind fun _ _ => safe_open fun journal x hopened => ?_
    exact locked_perform hopened stage
  | preflight operator => exact hsafe (operator.reads_preflight f none)
  | reconcile manifest => exact hsafe (reads_reconcileReadOnly f manifest)
  | journal manifest writable =>
    cases writable with
    | false => exact hsafe (Journal.reads_open manifest fun _ _ => trivial)
    | true => exact safe_open fun journal x _ => Part.holds_pure trivial

section Runs

variable {W : Type} [DecidableEq W] {f : LaunchFormat}

theorem launch_sound (W : Type) [DecidableEq W] (f : LaunchFormat) :
    Process.Sound (launchShared W) releaseLocks (LaunchStart f) where
  leaves w s hs := by
    refine ⟨fun d => ?_, trivial, fun w' hne d hd => ?_⟩
    · unfold releaseLocks
      split
      · exact (hs d).hold none
      · exact hs d
    · refine if_neg fun hw => hne ?_
      rw [hd] at hw
      exact Option.some.inj hw
  starts p hp w s _ := safe_start hp w s

/-- **Every directory of a reachable root is orderly.** -/
theorem directoryInv_of_reachable {pool : Pool (LaunchRoot W) W LaunchCall LaunchCall.Answer String Json}
    (h : Transition.Reachable (launchSystem W f) pool) (d : String) : DirectoryInv (pool.shared d) := by
  refine (Process.safe (launch_sound W f) ?_ h).1 d
  rintro s rfl d
  exact ⟨orderly_nil, fun _ _ => by simp [LaunchRoot.empty], fun _ _ _ => by simp [LaunchRoot.empty]⟩

/-- **The launch journal**: along every run on one root, a directory sees one create in each namespace and none
under a continuation, and one deposit over all namespaces; every request follows the attempt of its stage and the
receipts it needs, under the manifest recorded first and while no later namespace was opened; and a journal
opened for reading creates no record. -/
theorem launch_journal_safe {pool : Pool (LaunchRoot W) W LaunchCall LaunchCall.Answer String Json}
    (h : Transition.Reachable (launchSystem W f) pool) (d : String) :
    (∀ space, (pool.shared d).log.countP (LaunchEvent.isRequest space .create) ≤ 1) ∧
    (∀ manifest, .sent .continuation .create manifest ∉ (pool.shared d).log) ∧
    (pool.shared d).log.countP LaunchEvent.isDeposit ≤ 1 ∧
    (∀ before space stage manifest after, (pool.shared d).log = before ++ .sent space stage manifest :: after →
      (∃ value, .written space (.attempted stage) value ∈ before) ∧
      (stage = .fund → ∃ value, .written space (.receipt .bids) value ∈ before) ∧
      (stage = .start → ∃ value, .written space (.receipt .fund) value ∈ before) ∧
      .written space .manifest manifest ∈ before ∧
      (∀ other, .written space .manifest other ∈ (pool.shared d).log → other = manifest) ∧
      ∀ later ∈ space.later, .begun later .manifest ∉ before) ∧
    (∀ manifest recordName value, Reads (Journal.open f manifest false >>= fun journal =>
      journal.record f recordName value)) ∧
    (∀ manifest stage evidence, Reads (Journal.open f manifest false >>= fun journal =>
      journal.attempt f stage evidence)) ∧
    ∀ manifest, Reads (reconcileReadOnly f manifest) := by
  have hx := directoryInv_of_reachable h d
  refine ⟨fun space => hx.countP_request_le_one space .create, fun manifest hsent => ?_, hx.countP_deposit_le_one,
    fun before space stage manifest after hlog => ?_, fun manifest recordName value => ?_,
    fun manifest stage evidence => ?_, reads_reconcileReadOnly f⟩
  · obtain ⟨before, after, hlog⟩ := List.append_of_mem hsent
    have hjustified : Justified before .continuation .create manifest := hx.orderly _ _ _ hlog
    exact hjustified.create rfl rfl
  · have hjustified : Justified before space stage manifest := hx.orderly _ _ _ hlog
    refine ⟨hjustified.attempted, hjustified.afterBids, hjustified.afterFund, hjustified.manifest,
      fun other hother => ?_, hjustified.latest⟩
    have hfirst : .written space .manifest manifest ∈ (pool.shared d).log := by
      rw [hlog]
      exact List.mem_append_left _ hjustified.manifest
    rw [← hx.complete] at hother hfirst
    rw [hother] at hfirst
    cases hfirst
    rfl
  · exact Journal.reads_open manifest fun journal hjournal => Journal.reads_record hjournal recordName value
  · exact Journal.reads_open manifest fun journal hjournal => Journal.reads_attempt hjournal stage evidence

end Runs

/-! ## A first create -/

/-- What is observed of a campaign that is ready and not funded. -/
def observeReady : (read : LaunchRead) → read.Result
  | .freshAuthorization => ()
  | .marketChecks _ => .obj []
  | .details _ => ⟨4, ∅⟩
  | .budget _ => (0 : ℕ)
  | .balance => (0 : ℕ)
  | .minimums _ => ()
  | .installedProtection _ => ()
  | .campaignLease _ => ()
  | .startSnapshot _ => (Json.obj [], (4 : ℤ))
  | .firstLaunchCycles _ => ()
  | .startEvidence _ => ()

/-- A root on which nothing fails: requests are accepted, and the campaign gets the given number. -/
def respond {W : Type} (w : W) (id : ℕ) (s : LaunchRoot W) : (c : LaunchCall) → c.Answer × LaunchRoot W
  | .checkRoot => (.ok (), s)
  | .lockAccount _ => (.ok (), s)
  | .openDirectory _ _ => (.ok (), s)
  | .lockJournal d => match (s d).holder with
    | none => (.ok (), Function.update s d ((s d).hold (some w)))
    | some _ => (.error "locked", s)
  | .entryExists r => (.ok (decide ((s r.directory).files r.space r.name ≠ .absent)), s)
  | .readJson r => match (s r.directory).files r.space r.name with
    | .complete value => (.ok value, s)
    | _ => (.error "unreadable", s)
  | .createNew r => if (s r.directory).files r.space r.name = .absent then
      (.ok (), Function.update s r.directory ((s r.directory).begin r.space r.name))
    else (.error "exists", s)
  | .writeAll r value => (.ok (), Function.update s r.directory ((s r.directory).finish r.space r.name value))
  | .now => ((0 : ℤ), s)
  | .observe read => (.ok (observeReady read), s)
  | .prepareWrite _ => (.ok (), s)
  | .admitWrite _ => (.ok (), s)
  | .send departure => (.ok id, Function.update s departure.directory
      ((s departure.directory).record (.sent departure.space departure.stage departure.manifest)))

theorem launchAnswers_respond {W : Type} (w : W) (id : ℕ) (s : LaunchRoot W) (c : LaunchCall) :
    launchAnswers w s c (respond w id s c).1 (respond w id s c).2 := by
  cases c with
  | lockJournal d =>
    simp only [respond]
    cases hholder : (s d).holder with
    | none => exact ⟨hholder, rfl⟩
    | some w' => rfl
  | entryExists r => exact ⟨rfl, by simp⟩
  | readJson r =>
    simp only [respond]
    cases hfile : (s r.directory).files r.space r.name with
    | absent => rfl
    | begun => rfl
    | complete value => exact ⟨rfl, hfile⟩
  | createNew r =>
    simp only [respond]
    split
    · rename_i habsent
      exact ⟨habsent, rfl⟩
    · rfl
  | _ => rfl

/-- The manifest of the first create, as it is written. -/
def firstManifest : Json := .obj [("version", .num 1), ("scope", .str "create_only"),
  ("account_id", .str account), ("campaign_name", .str name), ("budget_rubles", .num 0)]

/-- The operator of a launch that only creates. -/
def firstOperator : Operator where
  manifest := ⟨1, .createOnly, account, name, ∅, 0, 1, "", 0, 1, none, none⟩
  targetPolicy id := .obj [("campaign_id", .num id)]

/-- The texts of its records. -/
def firstFormat : LaunchFormat := ⟨fun _ => some firstOperator.manifest, fun _ => firstManifest, fun _ => "",
  fun _ => none, fun _ => .str ""⟩

/-- The first create of a root departs, once. -/
theorem launch_journal_safe_first_create : ∃ pool, Transition.Reachable (launchSystem Unit firstFormat) pool ∧
    .sent .original .create firstManifest ∈ (pool.shared "ofk_region_wb-Nexus").log ∧
    (pool.shared "ofk_region_wb-Nexus").log.countP (LaunchEvent.isRequest .original .create) ≤ 1 := by
  let idle : Unit → Option (LaunchProg Json) := fun _ => none
  have hstart : Transition.Reachable (launchSystem Unit firstFormat) ⟨LaunchRoot.empty Unit, idle⟩ :=
    .init ⟨rfl, fun _ => rfl⟩
  have hspawn := hstart.step (.spawn () _ rfl (.stage firstOperator (.stage .create)))
  obtain ⟨pool, hpool, hshared⟩ :=
    Process.reachable_final hspawn (Function.update_self ..) (launchAnswers_respond () 7)
  refine ⟨pool, hpool, ?_, (launch_journal_safe hpool _).1 .original⟩
  rw [hshared]
  decide +kernel

end AdsControl.Wb.Launch
