import AdsControl.Lib.OrderedMap
import AdsControl.Reporting.CostImport

/-!
# Frozen report manifests

A report is built from one snapshot for each source an account needs. The manifest freezes the list of
snapshots together with the quality of the worst.

* `SnapshotDescriptor`, `quality`: a snapshot and its quality;
* `FrozenSnapshotManifest.new`: the checks of a list of snapshots;
* `FrozenSnapshotManifest.Exact`: the snapshots are exactly the required evidence;
* **`FrozenSnapshotManifest.new_eq_ok`**: exact lists are accepted, with their worst quality;
* **`frozen_manifest_exact`**: the order of accounts and snapshots does not matter.
-/

namespace AdsControl.Reporting

open Fallible

/-- The most accounts of a manifest. -/
def maxAccounts : ℕ := 64

/-- How long after the cutoff a source may be observed. -/
def maxPostCutoffObservationDelay : ℤ := hours 24

/-! ## Sources -/

/-- The sources of snapshots. -/
inductive SnapshotSource
  | sales
  | advertising
  | finance
  | stocks
  /-- Optional WB seller-warehouse source. -/
  | sellerStocks
  /-- Optional Ozon warehouse statistics. -/
  | clusterStocks
  /-- Optional posting quantities. -/
  | postingMovement
  | prices
  deriving DecidableEq

namespace SnapshotSource

/-- What every account needs. -/
def base : List SnapshotSource := [sales, advertising, stocks, prices]

/-- What an Ozon account needs. -/
def ozon : List SnapshotSource := [sales, advertising, finance, stocks, prices]

/-- What an account of a marketplace needs. -/
def requiredFor : Marketplace → List SnapshotSource
  | .ozon => ozon
  | .wildberries => base

theorem requiredFor_ne_nil (marketplace : Marketplace) : requiredFor marketplace ≠ [] := by
  cases marketplace <;> decide

/-- How old a source may be. -/
def freshnessSla : SnapshotSource → ℤ
  | sales | finance | postingMovement => hours 6
  | advertising => hours 2
  | stocks | sellerStocks | clusterStocks | prices => hours 1

/-- Sources about a period. -/
def isPeriodSource : SnapshotSource → Bool
  | sales | advertising | finance | postingMovement => true
  | stocks | sellerStocks | clusterStocks | prices => false

end SnapshotSource

/-! ## Snapshots -/

/-- How a collection ended. -/
inductive SnapshotStatus
  | succeeded
  | partially
  deriving DecidableEq

/-- From the best quality to the worst. -/
inductive SnapshotQuality
  | complete
  | partially
  | stale
  | critical
  deriving DecidableEq

instance SnapshotQuality.linearOrder : LinearOrder SnapshotQuality :=
  LinearOrder.lift' SnapshotQuality.ctorIdx fun a b h => by cases a <;> cases b <;> trivial

instance SnapshotQuality.orderBot : OrderBot SnapshotQuality where
  bot := .complete
  bot_le a := Nat.zero_le a.ctorIdx

/-- Why snapshots are refused. -/
inductive SnapshotError
  | invalidSnapshot
  | invalidTimeRange
  | invalidAccountScope
  | duplicateAccount
  | foreignAccount
  | scopeMismatch
  | incompleteManifest
  | duplicateSource
  | duplicateSnapshot
  deriving DecidableEq

/-- What is known of a snapshot. -/
structure SnapshotFields where
  snapshotId : ℤ
  accountId : String
  marketplace : Marketplace
  source : SnapshotSource
  cutoffAt : ℤ
  sourceAsOf : ℤ
  periodStart : ℤ
  periodEnd : ℤ
  paginationComplete : Bool
  status : SnapshotStatus

/-- The fields fit together. -/
def SnapshotFields.check (fields : SnapshotFields) : Except SnapshotError Unit := do
  ensure (0 < fields.snapshotId) .invalidSnapshot
  ensure (isAccountId fields.accountId) .invalidSnapshot
  ensure (fields.source = .sellerStocks → fields.marketplace = .wildberries) .scopeMismatch
  ensure (fields.source = .clusterStocks ∨ fields.source = .postingMovement → fields.marketplace = .ozon)
    .scopeMismatch
  ensure (fields.sourceAsOf ≤ fields.cutoffAt + maxPostCutoffObservationDelay ∧
    fields.periodStart ≤ fields.periodEnd) .invalidTimeRange
  if fields.source.isPeriodSource then
    ensure (fields.periodStart ≠ fields.periodEnd ∧ fields.periodEnd ≤ fields.cutoffAt) .invalidTimeRange
  else
    ensure (fields.periodStart = fields.sourceAsOf ∧ fields.periodEnd = fields.sourceAsOf) .invalidTimeRange

/-- A snapshot whose fields passed the checks. -/
structure SnapshotDescriptor extends SnapshotFields where
  valid : toSnapshotFields.check = .ok ()

namespace SnapshotDescriptor

/-- What a snapshot is worth in a report. -/
def quality (snapshot : SnapshotDescriptor) : SnapshotQuality :=
  let completeness : SnapshotQuality :=
    if snapshot.status = .partially ∨ snapshot.paginationComplete = false then .partially else .complete
  let age := snapshot.cutoffAt - snapshot.sourceAsOf
  let sla := snapshot.source.freshnessSla
  let freshness : SnapshotQuality :=
    if sla * 2 < age then .critical else if sla < age then .stale else .complete
  max completeness freshness

/-- What the snapshot is evidence of. -/
def pair (snapshot : SnapshotDescriptor) : String × SnapshotSource := (snapshot.accountId, snapshot.source)

end SnapshotDescriptor

/-! ## Manifests -/

/-- The snapshots of a report, frozen at its cutoff. -/
structure FrozenSnapshotManifest where
  cutoffAt : ℤ
  snapshots : List SnapshotDescriptor
  quality : SnapshotQuality

namespace FrozenSnapshotManifest

/-- The accounts of the scope by their identifier. -/
abbrev Expected : Type := List (String × Marketplace)

/-- Expect an account; it may occur once. -/
def insertAccount (expected : Expected) (account : AccountScope) : Except SnapshotError Expected := do
  ensure (expected.lookup account.accountId = none) .duplicateAccount
  return (account.accountId, account.marketplace) :: expected

/-- Every source of every expected account. -/
def expectedSources (expected : Expected) : Finset (String × SnapshotSource) :=
  (expected.flatMap fun account =>
    (SnapshotSource.requiredFor account.2).map fun source => (account.1, source)).toFinset

/-- What was admitted so far. -/
structure Progress where
  seen : Finset (String × SnapshotSource)
  snapshotIds : Finset ℤ
  quality : SnapshotQuality

/-- Admit a snapshot that is expected and new. -/
def admitSnapshot (cutoffAt : ℤ) (expected : Expected) (progress : Progress) (snapshot : SnapshotDescriptor) :
    Except SnapshotError Progress := do
  let expectedMarketplace ← context (expected.lookup snapshot.accountId) .foreignAccount
  ensure (expectedMarketplace = snapshot.marketplace ∧ snapshot.cutoffAt = cutoffAt) .scopeMismatch
  ensure (snapshot.pair ∉ progress.seen) .duplicateSource
  ensure (snapshot.snapshotId ∉ progress.snapshotIds) .duplicateSnapshot
  return ⟨insert snapshot.pair progress.seen, insert snapshot.snapshotId progress.snapshotIds,
    max progress.quality snapshot.quality⟩

/-- Freeze the snapshots of the accounts. -/
def new (cutoffAt : ℤ) (accounts : List AccountScope) (snapshots : List SnapshotDescriptor) :
    Except SnapshotError FrozenSnapshotManifest := do
  ensure (accounts ≠ [] ∧ accounts.length ≤ maxAccounts) .invalidAccountScope
  let expected ← accounts.foldlM insertAccount []
  ensure (snapshots.length = (expectedSources expected).card) .incompleteManifest
  let progress ← snapshots.foldlM (admitSnapshot cutoffAt expected) ⟨∅, ∅, .complete⟩
  ensure (progress.seen = expectedSources expected) .incompleteManifest
  return ⟨cutoffAt, snapshots, progress.quality⟩

/-! ## The accounts -/

theorem lookup_eq_none_iff {expected : Expected} {accountId : String} :
    expected.lookup accountId = none ↔ accountId ∉ expected.map Prod.fst := by
  simp only [List.lookup_eq_none_iff, bne_iff_ne, List.mem_map, not_exists, not_and]
  exact forall₂_congr fun entry _ => ne_comm

theorem lookup_eq_some_iff {expected : Expected} {accountId : String} {marketplace : Marketplace}
    (hdistinct : (expected.map Prod.fst).Nodup) :
    expected.lookup accountId = some marketplace ↔ (accountId, marketplace) ∈ expected := by
  induction expected with
  | nil => simp
  | cons entry expected ih =>
    obtain ⟨id, market⟩ := entry
    rw [List.map_cons, List.nodup_cons] at hdistinct
    rw [List.mem_cons, Prod.mk.injEq, ← ih hdistinct.2]
    by_cases hid : accountId = id
    · have hfree : expected.lookup accountId = none := lookup_eq_none_iff.mpr (hid ▸ hdistinct.1)
      simp [hid, hid ▸ hfree, eq_comm]
    · simp [List.lookup_cons, hid, beq_eq_false_iff_ne.mpr hid]

theorem foldlM_insertAccount {accounts : List AccountScope} {init expected : Expected}
    (hinit : (init.map Prod.fst).Nodup) : accounts.foldlM insertAccount init = .ok expected ↔
    expected = (accounts.map fun account => (account.accountId, account.marketplace)).reverse ++ init ∧
      (expected.map Prod.fst).Nodup := by
  induction accounts generalizing init with
  | nil =>
    rw [List.foldlM_nil, ok_of_pure]
    exact ⟨fun h => ⟨h.symm, h ▸ hinit⟩, fun h => h.1.symm⟩
  | cons account accounts ih =>
    have htail : (((account.accountId, account.marketplace) :: init).map Prod.fst).Nodup ↔
        account.accountId ∉ init.map Prod.fst := by
      rw [List.map_cons, List.nodup_cons]
      exact and_iff_left hinit
    simp only [List.foldlM_cons, ok_of_bind, insertAccount, ensure_eq_ok, ok_of_pure, List.map_cons,
      List.reverse_cons, List.append_assoc, List.singleton_append, lookup_eq_none_iff]
    constructor
    · rintro ⟨_, ⟨-, hfree, rfl⟩, h⟩
      exact (ih (htail.mpr hfree)).mp h
    · rintro ⟨rfl, hdistinct⟩
      have hsuffix := hdistinct
      rw [List.map_append] at hsuffix
      have hinner := (List.nodup_append.mp hsuffix).2.1
      exact ⟨_, ⟨(), htail.mp hinner, rfl⟩, (ih hinner).mpr ⟨rfl, hdistinct⟩⟩

theorem mem_expectedSources {expected : Expected} {p : String × SnapshotSource} :
    p ∈ expectedSources expected ↔
      ∃ account ∈ expected, p.1 = account.1 ∧ p.2 ∈ SnapshotSource.requiredFor account.2 := by
  obtain ⟨id, source⟩ := p
  simp only [expectedSources, List.mem_toFinset, List.mem_flatMap, List.mem_map, Prod.mk.injEq]
  refine exists_congr fun account => and_congr_right fun _ => ?_
  constructor
  · rintro ⟨_, hsource, rfl, rfl⟩
    exact ⟨rfl, hsource⟩
  · rintro ⟨rfl, hsource⟩
    exact ⟨source, hsource, rfl, rfl⟩

/-! ## The snapshots -/

/-- The worst of the qualities, from a first one. -/
def worst (quality : SnapshotQuality) (snapshots : List SnapshotDescriptor) : SnapshotQuality :=
  snapshots.foldl (fun quality snapshot => max quality snapshot.quality) quality

theorem worst_isGreatest (quality : SnapshotQuality) (snapshots : List SnapshotDescriptor) :
    IsGreatest {q | q = quality ∨ ∃ snapshot ∈ snapshots, snapshot.quality = q} (worst quality snapshots) := by
  induction snapshots generalizing quality with
  | nil => exact ⟨.inl rfl, by rintro q (rfl | ⟨_, h, -⟩) <;> [exact le_rfl; cases h]⟩
  | cons snapshot snapshots ih =>
    obtain ⟨hmem, hupper⟩ := ih (max quality snapshot.quality)
    have hfirst : max quality snapshot.quality ≤ worst quality (snapshot :: snapshots) := hupper (.inl rfl)
    constructor
    · rcases hmem with hmem | ⟨other, hother, hmem⟩
      · rcases max_choice quality snapshot.quality with hmax | hmax
        · exact .inl (hmem.trans hmax)
        · exact .inr ⟨snapshot, List.mem_cons_self, (hmem.trans hmax).symm⟩
      · exact .inr ⟨other, List.mem_cons_of_mem _ hother, hmem⟩
    · rintro q (rfl | ⟨other, hother, rfl⟩)
      · exact (le_max_left _ _).trans hfirst
      · rcases List.mem_cons.mp hother with rfl | hother
        · exact (le_max_right _ _).trans hfirst
        · exact hupper (.inr ⟨other, hother, rfl⟩)

theorem foldlM_admit {cutoffAt : ℤ} {expected : Expected} {snapshots : List SnapshotDescriptor}
    {progress progress' : Progress} :
    snapshots.foldlM (admitSnapshot cutoffAt expected) progress = .ok progress' ↔
    (∀ snapshot ∈ snapshots, expected.lookup snapshot.accountId = some snapshot.marketplace ∧
      snapshot.cutoffAt = cutoffAt) ∧
    ((snapshots.map SnapshotDescriptor.pair).Nodup ∧ ∀ snapshot ∈ snapshots, snapshot.pair ∉ progress.seen) ∧
    ((snapshots.map fun snapshot => snapshot.snapshotId).Nodup ∧
      ∀ snapshot ∈ snapshots, snapshot.snapshotId ∉ progress.snapshotIds) ∧
    progress' = ⟨(snapshots.map SnapshotDescriptor.pair).toFinset ∪ progress.seen,
      (snapshots.map fun snapshot => snapshot.snapshotId).toFinset ∪ progress.snapshotIds,
      worst progress.quality snapshots⟩ := by
  induction snapshots generalizing progress with
  | nil =>
    rw [List.foldlM_nil, ok_of_pure]
    simp [worst, eq_comm]
  | cons snapshot snapshots ih =>
    simp only [List.foldlM_cons, ok_of_bind, admitSnapshot, context_eq_ok, ensure_eq_ok, ok_of_pure,
      List.forall_mem_cons, List.map_cons, List.nodup_cons, List.toFinset_cons]
    constructor
    · rintro ⟨_, ⟨marketplace, hlookup, -, ⟨rfl, hcutoff⟩, -, hpair, -, hid, rfl⟩, h⟩
      obtain ⟨hscoped, ⟨hpairs, hseen⟩, ⟨hids, hidsSeen⟩, rfl⟩ := ih.mp h
      simp only [Finset.mem_insert, not_or] at hseen hidsSeen
      refine ⟨⟨⟨hlookup, hcutoff⟩, hscoped⟩, ⟨⟨fun hmem => ?_, hpairs⟩, hpair, fun s hs => (hseen s hs).2⟩,
        ⟨⟨fun hmem => ?_, hids⟩, hid, fun s hs => (hidsSeen s hs).2⟩, ?_⟩
      · obtain ⟨other, hother, heq⟩ := List.mem_map.mp hmem
        exact (hseen other hother).1 heq
      · obtain ⟨other, hother, heq⟩ := List.mem_map.mp hmem
        exact (hidsSeen other hother).1 heq
      · simp only [Finset.union_insert, Finset.insert_union]
        rfl
    · rintro ⟨⟨⟨hlookup, hcutoff⟩, hscoped⟩, ⟨⟨hnew, hpairs⟩, hpair, hseen⟩,
        ⟨⟨hnewId, hids⟩, hid, hidsSeen⟩, rfl⟩
      refine ⟨_, ⟨_, hlookup, (), ⟨rfl, hcutoff⟩, (), hpair, (), hid, rfl⟩,
        ih.mpr ⟨hscoped, ⟨hpairs, ?_⟩, ⟨hids, ?_⟩, ?_⟩⟩
      · intro other hother
        rw [Finset.mem_insert, not_or]
        exact ⟨fun heq => hnew (heq ▸ List.mem_map_of_mem hother), hseen other hother⟩
      · intro other hother
        rw [Finset.mem_insert, not_or]
        exact ⟨fun heq => hnewId (List.mem_map.mpr ⟨other, hother, heq⟩), hidsSeen other hother⟩
      · simp only [Finset.union_insert, Finset.insert_union]
        rfl

/-! ## Exact evidence -/

/-- The snapshots are exactly the evidence that the accounts require at the cutoff. -/
structure Exact (cutoffAt : ℤ) (accounts : List AccountScope) (snapshots : List SnapshotDescriptor) :
    Prop where
  accounts_bounded : 1 ≤ accounts.length ∧ accounts.length ≤ maxAccounts
  accounts_distinct : (accounts.map fun account => account.accountId).Nodup
  snapshots_distinct : (snapshots.map fun snapshot => snapshot.snapshotId).Nodup
  inScope : ∀ snapshot ∈ snapshots, snapshot.cutoffAt = cutoffAt ∧
    ∃ account ∈ accounts, account.accountId = snapshot.accountId ∧ account.marketplace = snapshot.marketplace
  once : (snapshots.map SnapshotDescriptor.pair).Nodup
  required : ∀ p, p ∈ snapshots.map SnapshotDescriptor.pair ↔
    ∃ account ∈ accounts, p.1 = account.accountId ∧ p.2 ∈ SnapshotSource.requiredFor account.marketplace

section Evidence

variable {cutoffAt : ℤ} {accounts accounts' : List AccountScope}
  {snapshots snapshots' : List SnapshotDescriptor} {manifest : FrozenSnapshotManifest}

theorem Exact.perm (h : Exact cutoffAt accounts snapshots)
    (haccounts : accounts.Perm accounts') (hsnapshots : snapshots.Perm snapshots') :
    Exact cutoffAt accounts' snapshots' where
  accounts_bounded := haccounts.length_eq ▸ h.accounts_bounded
  accounts_distinct := (haccounts.map _).nodup_iff.mp h.accounts_distinct
  snapshots_distinct := (hsnapshots.map _).nodup_iff.mp h.snapshots_distinct
  inScope snapshot hmem := by
    obtain ⟨hcutoff, account, haccount, hscope⟩ := h.inScope snapshot (hsnapshots.mem_iff.mpr hmem)
    exact ⟨hcutoff, account, haccounts.mem_iff.mp haccount, hscope⟩
  once := (hsnapshots.map _).nodup_iff.mp h.once
  required p := by
    rw [← (hsnapshots.map _).mem_iff, h.required p]
    simp only [haccounts.mem_iff]

/-- **Exactly the required evidence is accepted.** -/
theorem new_eq_ok : new cutoffAt accounts snapshots = .ok manifest ↔
      Exact cutoffAt accounts snapshots ∧ manifest = ⟨cutoffAt, snapshots, worst .complete snapshots⟩ := by
  generalize hentries :
    (accounts.map fun account => (account.accountId, account.marketplace)).reverse ++ [] = entries
  have hkeys : (entries.map Prod.fst).Perm (accounts.map fun account => account.accountId) := by
    rw [← hentries, List.append_nil, List.map_reverse, List.map_map]
    exact List.reverse_perm _
  have hmem : ∀ entry, entry ∈ entries ↔
      ∃ account ∈ accounts, (account.accountId, account.marketplace) = entry := by
    intro entry
    rw [← hentries, List.append_nil, List.mem_reverse, List.mem_map]
  have hrequired : ∀ p, p ∈ expectedSources entries ↔
      ∃ account ∈ accounts,
        p.1 = account.accountId ∧ p.2 ∈ SnapshotSource.requiredFor account.marketplace := by
    intro p
    simp only [mem_expectedSources, hmem, exists_exists_and_eq_and]
  have hempty : (([] : Expected).map Prod.fst).Nodup := List.nodup_nil
  simp only [new, ok_of_bind, ensure_eq_ok, ok_of_pure, foldlM_insertAccount hempty, hentries,
    foldlM_admit]
  constructor
  · rintro ⟨-, ⟨hne, hbound⟩, _, ⟨rfl, hdistinct⟩, -, hlength, _, ⟨hscoped, ⟨hpairs, -⟩, ⟨hids, -⟩, rfl⟩,
      -, hseen, rfl⟩
    refine ⟨⟨⟨List.length_pos_iff.mpr hne, hbound⟩, hkeys.nodup_iff.mp hdistinct, hids,
      fun snapshot hs => ?_, hpairs, fun p => ?_⟩, rfl⟩
    · obtain ⟨hlookup, hcutoff⟩ := hscoped snapshot hs
      obtain ⟨account, haccount, heq⟩ := (hmem _).mp ((lookup_eq_some_iff hdistinct).mp hlookup)
      exact ⟨hcutoff, account, haccount, Prod.mk.inj heq⟩
    · rw [← hrequired, ← hseen, Finset.union_empty, List.mem_toFinset]
  · rintro ⟨h, rfl⟩
    have hdistinct := hkeys.nodup_iff.mpr h.accounts_distinct
    have hseen : (snapshots.map SnapshotDescriptor.pair).toFinset = expectedSources entries := by
      ext p
      rw [List.mem_toFinset, hrequired, h.required]
    refine ⟨(), ⟨List.length_pos_iff.mp h.accounts_bounded.1, h.accounts_bounded.2⟩, _, ⟨rfl, hdistinct⟩,
      (), ?_, _, ⟨fun snapshot hs => ?_, ⟨h.once, by simp⟩, ⟨h.snapshots_distinct, by simp⟩, rfl⟩, (), ?_, rfl⟩
    · rw [← hseen, List.toFinset_card_of_nodup h.once, List.length_map]
    · obtain ⟨hcutoff, account, haccount, hid, hmarket⟩ := h.inScope snapshot hs
      refine ⟨(lookup_eq_some_iff hdistinct).mpr ((hmem _).mpr ⟨account, haccount, ?_⟩), hcutoff⟩
      rw [hid, hmarket]
    · rw [Finset.union_empty, hseen]

theorem Exact.snapshots_ne_nil (h : Exact cutoffAt accounts snapshots) : snapshots ≠ [] := by
  rintro rfl
  obtain ⟨account, haccount⟩ := List.exists_mem_of_length_pos h.accounts_bounded.1
  obtain ⟨source, hsource⟩ :=
    List.exists_mem_of_ne_nil _ (SnapshotSource.requiredFor_ne_nil account.marketplace)
  have hmissing := (h.required (account.accountId, source)).mpr ⟨account, haccount, rfl, hsource⟩
  cases hmissing

/-- The quality of a manifest is the worst of its snapshots. -/
theorem quality_isGreatest (h : new cutoffAt accounts snapshots = .ok manifest) :
    IsGreatest {q | ∃ snapshot ∈ snapshots, snapshot.quality = q} manifest.quality := by
  obtain ⟨hexact, rfl⟩ := new_eq_ok.mp h
  obtain ⟨snapshot, hsnapshot⟩ := List.exists_mem_of_ne_nil _ hexact.snapshots_ne_nil
  obtain ⟨hmem, hupper⟩ := worst_isGreatest .complete snapshots
  refine ⟨?_, fun q hq => hupper (.inr hq)⟩
  rcases hmem with hbest | hmem
  · refine ⟨snapshot, hsnapshot, le_antisymm (hupper (.inr ⟨snapshot, hsnapshot, rfl⟩)) ?_⟩
    exact hbest.trans_le bot_le
  · exact hmem

theorem quality_eq_some {q : SnapshotQuality} :
    (new cutoffAt accounts snapshots).toOption.map (fun manifest => manifest.quality) = some q ↔
      Exact cutoffAt accounts snapshots ∧
        IsGreatest {q | ∃ snapshot ∈ snapshots, snapshot.quality = q} q := by
  constructor
  · intro h
    obtain ⟨manifest, hmanifest, rfl⟩ := Option.map_eq_some_iff.mp h
    have hnew : new cutoffAt accounts snapshots = .ok manifest := by
      cases hresult : new cutoffAt accounts snapshots with
      | error e =>
        rw [hresult] at hmanifest
        cases hmanifest
      | ok other =>
        rw [hresult] at hmanifest
        rw [Option.some.inj hmanifest]
    exact ⟨(new_eq_ok.mp hnew).1, quality_isGreatest hnew⟩
  · rintro ⟨hexact, hgreatest⟩
    have hnew := new_eq_ok.mpr ⟨hexact, rfl⟩
    rw [hnew]
    exact congrArg some ((quality_isGreatest hnew).unique hgreatest)

end Evidence

end FrozenSnapshotManifest

open FrozenSnapshotManifest in
/-- **A frozen manifest is exactly its required evidence**, of the worst quality of its snapshots,
whatever the order of accounts and snapshots. -/
theorem frozen_manifest_exact (cutoffAt : ℤ) (accounts : List AccountScope)
    (snapshots : List SnapshotDescriptor) :
    ((∃ manifest, FrozenSnapshotManifest.new cutoffAt accounts snapshots = .ok manifest) ↔
      Exact cutoffAt accounts snapshots) ∧
    (∀ manifest, FrozenSnapshotManifest.new cutoffAt accounts snapshots = .ok manifest →
      IsGreatest {q | ∃ snapshot ∈ snapshots, snapshot.quality = q} manifest.quality) ∧
    ∀ accounts' snapshots', accounts.Perm accounts' → snapshots.Perm snapshots' →
      (FrozenSnapshotManifest.new cutoffAt accounts' snapshots').toOption.map (fun m => m.quality) =
        (FrozenSnapshotManifest.new cutoffAt accounts snapshots).toOption.map fun m => m.quality := by
  refine ⟨⟨fun ⟨_, h⟩ => (new_eq_ok.mp h).1, fun h => ⟨_, new_eq_ok.mpr ⟨h, rfl⟩⟩⟩,
    fun _ => quality_isGreatest, fun accounts' snapshots' haccounts hsnapshots => Option.ext fun q => ?_⟩
  have hexact : Exact cutoffAt accounts' snapshots' ↔ Exact cutoffAt accounts snapshots :=
    ⟨fun h => h.perm haccounts.symm hsnapshots.symm, fun h => h.perm haccounts hsnapshots⟩
  rw [quality_eq_some, quality_eq_some, hexact]
  simp only [hsnapshots.mem_iff]

/-! ## A Wildberries report -/

/-- An account. -/
def wbStore : AccountScope := ⟨"wb_store", .wildberries, by decide +kernel⟩

/-- A fresh snapshot of the account. -/
def freshFields (index : ℕ) (source : SnapshotSource) : SnapshotFields where
  snapshotId := index + 1
  accountId := wbStore.accountId
  marketplace := wbStore.marketplace
  source := source
  cutoffAt := 0
  sourceAsOf := 0
  periodStart := if source.isPeriodSource then hours (-24) else 0
  periodEnd := 0
  paginationComplete := true
  status := .succeeded

theorem check_freshFields (index : ℕ) {source : SnapshotSource} (h : source ∈ SnapshotSource.base) :
    (freshFields index source).check = .ok () := by
  have hpos : 0 < (freshFields index source).snapshotId := Int.natCast_succ_pos index
  simp only [SnapshotFields.check, ok_of_bind, ensure_eq_ok]
  refine ⟨(), hpos, (), wbStore.valid, ?_⟩
  fin_cases h <;> simp [freshFields, SnapshotSource.isPeriodSource, maxPostCutoffObservationDelay, hours,
    seconds, wbStore]

/-- A fresh snapshot of a source. -/
def freshSnapshot (index : ℕ) (source : SnapshotSource) (h : source ∈ SnapshotSource.base) :
    SnapshotDescriptor :=
  ⟨freshFields index source, check_freshFields index h⟩

/-- A fresh snapshot of every source. -/
def freshSnapshots : List SnapshotDescriptor :=
  [freshSnapshot 0 .sales (by decide), freshSnapshot 1 .advertising (by decide),
    freshSnapshot 2 .stocks (by decide), freshSnapshot 3 .prices (by decide)]

/-- The four fresh snapshots of a Wildberries account are complete evidence in either order. -/
theorem frozen_manifest_exact_wildberries :
    IsGreatest {q | ∃ snapshot ∈ freshSnapshots, snapshot.quality = q} SnapshotQuality.complete ∧
      (FrozenSnapshotManifest.new 0 [wbStore] freshSnapshots.reverse).toOption.map (fun m => m.quality) =
        (FrozenSnapshotManifest.new 0 [wbStore] freshSnapshots).toOption.map fun m => m.quality :=
  ⟨(frozen_manifest_exact 0 [wbStore] freshSnapshots).2.1 ⟨0, freshSnapshots, .complete⟩ (by rfl),
    (frozen_manifest_exact 0 [wbStore] freshSnapshots).2.2 _ _ (.refl _) (freshSnapshots.reverse_perm.symm)⟩

end AdsControl.Reporting
