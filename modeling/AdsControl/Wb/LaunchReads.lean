import AdsControl.Wb.LaunchStages

/-!
# What only reads in a launch

The checks of a launch read files, the marketplace and the robot, and change nothing. A journal that was
opened without the intent to write refuses every record.

* `Reads`: a program takes no lock, creates nothing and sends nothing;
* **`Journal.reads_open`**: neither does opening a journal for reading, nor reading under it.
-/

namespace AdsControl.Wb.Launch

open Fallible Interaction Interaction.Prog Serde

/-- The commands that change nothing. -/
def LaunchCall.IsRead : LaunchCall → Prop
  | lockJournal _ => False
  | createNew _ => False
  | writeAll _ _ => False
  | send _ => False
  | _ => True

/-- A program that only reads. -/
abbrev Reads {α : Type} (p : LaunchProg α) : Prop := p.Asks LaunchCall.IsRead

/-! ## Files -/

theorem reads_ask {c : LaunchCall} (hc : c.IsRead) : Reads c.ask := ⟨hc, fun _ => trivial⟩

theorem reads_observe (read : LaunchRead) : Reads (observe read) := .perform_bind trivial (asks_ofExcept _)

theorem reads_entryExists (record : Record) : Reads (entryExists record) :=
  .perform_bind trivial (asks_ofExcept _)

theorem reads_readJson (record : Record) : Reads (readJson record) :=
  .perform_bind trivial (asks_ofExcept _)

theorem reads_forbid (directory : String) (space : Namespace) (message : String) (names : List RecordName) :
    Reads (forbid directory space message names) := by
  induction names with
  | nil => trivial
  | cons name names ih =>
    refine (reads_entryExists _).bind fun found => ?_
    exact .ofExcept_bind fun _ => ih

theorem reads_recreateValidate (f : LaunchFormat) (directory : String) (new : Json) :
    Reads (recreateValidate f directory new) := by
  unfold recreateValidate
  refine .ofExcept_bind fun manifest => .ofExcept_bind fun approval => .ofExcept_bind fun _ => ?_
  refine (reads_readJson _).bind fun oldValue => (reads_readJson _).bind fun attempt => ?_
  refine .ofExcept_bind fun _ => .ofExcept_bind fun old => .ofExcept_bind fun attemptedAt => ?_
  exact .ofExcept_bind fun _ => .ofExcept_bind fun _ => reads_forbid _ _ _ _

theorem reads_readEvidence (f : LaunchFormat) (directory : String) (recordName : RecordName)
    (expected : String) : Reads (readEvidence f directory recordName expected) :=
  (reads_readJson _).bind fun _ => .ofExcept_bind fun _ => trivial

theorem reads_continuationValidate (f : LaunchFormat) (directory : String) (value : Json) :
    Reads (continuationValidate f directory value) := by
  unfold continuationValidate
  refine .ofExcept_bind fun manifest => .ofExcept_bind fun approval => .ofExcept_bind fun _ => ?_
  refine (reads_readEvidence ..).bind fun manifestRecord => (reads_readEvidence ..).bind fun attempt => ?_
  refine (reads_readEvidence ..).bind fun receipt => (reads_readEvidence ..).bind fun policy => ?_
  refine (reads_recreateValidate ..).bind fun _ => .ofExcept_bind fun previous => ?_
  refine .ofExcept_bind fun attemptedAt => .ofExcept_bind fun _ => ?_
  refine (reads_forbid ..).bind fun _ => (reads_forbid ..).bind fun _ => ?_
  refine (reads_entryExists _).bind fun found => ?_
  split
  · exact (reads_readJson _).bind fun recorded => asks_ofExcept _ _
  · trivial

/-! ## The journal -/

namespace Journal

variable {journal : Journal} {f : LaunchFormat}

theorem reads_present (journal : Journal) (recordName : RecordName) : Reads (journal.present recordName) :=
  .perform_bind trivial fun _ => trivial

theorem reads_assertNotAttempted (journal : Journal) (stage : Stage) :
    Reads (journal.assertNotAttempted stage) := by
  refine (reads_present ..).bind fun attempted => ?_
  split
  · trivial
  · refine (reads_present ..).bind fun confirmed => ?_
    split
    · trivial
    · refine (reads_present ..).bind fun answered => ?_
      split <;> trivial

theorem reads_requireReceipt (journal : Journal) (recordName : RecordName) :
    Reads (journal.requireReceipt recordName) := reads_readJson _

theorem reads_campaignId (journal : Journal) : Reads journal.campaignId :=
  (reads_requireReceipt ..).bind fun _ => asks_ofExcept _ _

theorem reads_maybeCampaignId (journal : Journal) : Reads journal.maybeCampaignId := by
  refine (reads_present ..).bind fun confirmed => ?_
  split
  · exact (reads_campaignId _).bind fun _ => trivial
  · trivial

theorem record_of_not_writable (hjournal : journal.writable = false) (recordName : RecordName) (value : Json) :
    journal.record f recordName value = .fail "read-only reconcile cannot write journal" := by
  unfold record
  rw [hjournal]
  rfl

theorem reads_record (hjournal : journal.writable = false) (recordName : RecordName) (value : Json) :
    Reads (journal.record f recordName value) := by
  rw [record_of_not_writable hjournal]
  trivial

theorem reads_attempt (hjournal : journal.writable = false) (stage : Stage) (evidence : Json) :
    Reads (journal.attempt f stage evidence) := by
  unfold attempt
  refine (reads_assertNotAttempted ..).bind fun _ => ?_
  refine (Asks.when fun _ => (reads_readJson _).bind fun manifest => reads_recreateValidate ..).bind fun _ => ?_
  exact .perform_bind trivial fun now => reads_record hjournal _ _

theorem reads_validateOpenAuthorization (journal : Journal) (f : LaunchFormat) (manifest : Json) :
    Reads (journal.validateOpenAuthorization f manifest false) := by
  unfold validateOpenAuthorization
  refine (Asks.when fun _ => reads_continuationValidate ..).bind fun _ => ?_
  refine (Asks.when fun _ => reads_forbid ..).bind fun _ => ?_
  refine (Asks.when fun _ => reads_recreateValidate ..).bind fun _ => ?_
  refine (Asks.when fun _ => reads_forbid ..).bind fun _ => ?_
  exact (reads_readJson _).bind fun recorded => asks_ofExcept _ _

/-- **Opening a journal for reading only reads**, and so does what only reads under it. -/
theorem reads_open {α : Type} {use : Journal → LaunchProg α} (manifest : Json)
    (huse : ∀ journal, journal.writable = false → Reads (use journal)) :
    Reads (Journal.open f manifest false >>= use) := by
  unfold Journal.open
  simp only [Prog.bind_assoc]
  refine .perform_bind trivial fun _ => .ofExcept_bind fun _ => ?_
  refine .ofExcept_bind fun directory => .perform_bind trivial fun _ => .ofExcept_bind fun _ => ?_
  exact (reads_validateOpenAuthorization ..).bind fun _ => huse _ rfl

end Journal

theorem reads_inspectRecreate (f : LaunchFormat) (manifest : Json) :
    Reads (Journal.inspectRecreate f manifest) := by
  unfold Journal.inspectRecreate
  refine (reads_readJson _).bind fun old => Journal.reads_open old fun original _ => ?_
  refine (reads_recreateValidate ..).bind fun _ => (reads_entryExists _).bind fun found => ?_
  refine (Asks.when fun _ => (reads_readJson _).bind fun recorded => asks_ofExcept _ _).bind fun _ => ?_
  refine (reads_entryExists _).bind fun attempted => .ofExcept_bind fun _ => ?_
  exact (reads_entryExists _).bind fun confirmed => asks_ofExcept _ _

namespace Operator

theorem reads_continuationPreflightId (self : Operator) (f : LaunchFormat) (supplied : Option ℕ) :
    Reads (self.continuationPreflightId f supplied) := by
  unfold continuationPreflightId
  split
  · trivial
  · exact (reads_continuationValidate ..).bind fun _ => .ofExcept_bind fun _ => trivial

theorem reads_preflight (self : Operator) (f : LaunchFormat) (ownId : Option ℕ) :
    Reads (self.preflight f ownId) := by
  unfold preflight
  refine (reads_observe _).bind fun _ => (reads_continuationPreflightId ..).bind fun ownId => ?_
  refine (Asks.when fun _ => reads_inspectRecreate ..).bind fun _ => (reads_observe _).bind fun evidence => ?_
  refine (Asks.when fun _ => (reads_observe _).bind fun balance => asks_ofExcept _ _).bind fun _ => ?_
  exact (reads_observe _).bind fun _ => trivial

theorem reads_inactive (self : Operator) (id : ℕ) (exactBids : Bool) : Reads (self.inactive id exactBids) := by
  refine (reads_observe _).bind fun state => .ofExcept_bind fun _ => ?_
  exact (Asks.when fun _ => asks_ofExcept _ _).bind fun _ => trivial

theorem reads_ensureBudget (id expected : ℕ) (message : String) : Reads (ensureBudget id expected message) :=
  (reads_observe _).bind fun _ => asks_ofExcept _ _

theorem reads_reconcile (journal : Journal) : Reads (reconcile journal) := by
  refine (Journal.reads_maybeCampaignId _).bind fun id => ?_
  cases id with
  | none => exact (Journal.reads_present ..).bind fun _ => trivial
  | some id =>
    refine (reads_observe _).bind fun state => (reads_observe _).bind fun budget => ?_
    exact (Journal.reads_present ..).bind fun _ => (Journal.reads_present ..).bind fun _ => trivial

theorem reads_validateReceipts (self : Operator) (journal : Journal) (id : ℕ) :
    Reads (self.validateReceipts journal id) := by
  refine (journal.reads_requireReceipt _).bind fun created => (journal.reads_requireReceipt _).bind fun funded => ?_
  refine (journal.reads_requireReceipt _).bind fun response => (journal.reads_requireReceipt _).bind fun bids => ?_
  exact asks_ofExcept _ _

end Operator

theorem reads_reconcileReadOnly (f : LaunchFormat) (manifest : Json) : Reads (reconcileReadOnly f manifest) :=
  Journal.reads_open manifest fun journal _ => Operator.reads_reconcile journal

end AdsControl.Wb.Launch
