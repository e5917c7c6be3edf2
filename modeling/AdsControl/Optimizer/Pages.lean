import AdsControl.Optimizer.Prepare
import AdsControl.Lib.OrderedMap

/-!
# Pages cover their snapshots

* `Contiguous`, `PageCover`: pages that cover the rows of one snapshot exactly, with equal
  publication metadata;
* **`pageCover_of_completeSnapshots`**: every assembled snapshot is covered by its pages;
* **`completeSnapshots_perm`**: the order of the pages does not matter.
-/

namespace AdsControl.Optimizer

open Fallible Machine Std OrderedMap

variable {Value : Type} {codec : Codec Value} {bundle : PreparationBundle Value}
  {source : SnapshotSource}

/-! ## Grouping -/

/-- Add an envelope to the group of a snapshot. -/
def putPage (groups : PageGroups Value) (id : ℤ) (offset : ℕ) (envelope : SnapshotEnvelope Value) :
    PageGroups Value :=
  groups.insert id ((groups[id]?.getD ∅).insert offset envelope)

theorem addPage_eq_ok {groups groups' : PageGroups Value} {page : SnapshotPage Value} :
    addPage codec bundle source groups page = .ok groups' ↔
      ∃ id envelope, decodeSnapshotPage codec bundle source page = .ok (id, envelope) ∧
        (groups[id]?.getD ∅)[page.offset]? = none ∧
        groups' = putPage groups id page.offset envelope := by
  simp only [addPage, ok_of_bind, ensure_eq_ok, ok_of_pure, exists_const, Prod.exists]
  constructor
  · rintro ⟨id, envelope, hdec, hnew, rfl⟩
    exact ⟨id, envelope, hdec, hnew, rfl⟩
  · rintro ⟨id, envelope, hdec, hnew, rfl⟩
    exact ⟨id, envelope, hdec, hnew, rfl⟩

theorem group_putPage (groups : PageGroups Value) (id j : ℤ) (offset : ℕ)
    (envelope : SnapshotEnvelope Value) :
    (putPage groups id offset envelope)[j]?.getD ∅ =
      if id = j then (groups[id]?.getD ∅).insert offset envelope else groups[j]?.getD ∅ := by
  rw [putPage, getElem?_put]
  split_ifs with h <;> rfl

theorem putPage_comm (groups : PageGroups Value) {id id' : ℤ} {offset offset' : ℕ}
    (envelope envelope' : SnapshotEnvelope Value) (h : id = id' → offset ≠ offset') :
    putPage (putPage groups id offset envelope) id' offset' envelope' =
      putPage (putPage groups id' offset' envelope') id offset envelope := by
  refine ExtTreeMap.ext_getElem? fun j => ?_
  by_cases hid : id = id'
  · subst hid
    have hne := h rfl
    have hswap : ∀ g : BTreeMap ℕ (SnapshotEnvelope Value),
        (g.insert offset envelope).insert offset' envelope' =
          (g.insert offset' envelope').insert offset envelope := fun g => by
      refine ExtTreeMap.ext_getElem? fun k => ?_
      simp only [getElem?_put]
      split_ifs with h1 h2
      · exact absurd (h2.trans h1.symm) hne
      all_goals rfl
    simp only [putPage, getElem?_put, if_true, Option.getD_some, hswap]
    split_ifs <;> rfl
  · simp only [putPage, getElem?_put, if_neg hid, if_neg (Ne.symm hid)]
    split_ifs with h1 h2
    · exact absurd (h2.trans h1.symm) hid
    all_goals rfl

/-- Two successful additions commute. -/
theorem addPage_comm (groups : PageGroups Value) (p q : SnapshotPage Value) (t : PageGroups Value)
    (h : (addPage codec bundle source groups p >>= fun s => addPage codec bundle source s q) =
      .ok t) :
    (addPage codec bundle source groups q >>= fun s => addPage codec bundle source s p) = .ok t := by
  simp only [ok_of_bind, addPage_eq_ok] at h ⊢
  obtain ⟨_, ⟨id, envelope, hp, hnewp, rfl⟩, id', envelope', hq, hnewq, rfl⟩ := h
  rw [group_putPage] at hnewq
  have hplace : id = id' → p.offset ≠ q.offset := by
    rintro rfl heq
    rw [if_pos rfl, getElem?_put, if_pos heq] at hnewq
    cases hnewq
  refine ⟨_, ⟨id', envelope', hq, ?_, rfl⟩, id, envelope, hp, ?_, putPage_comm _ _ _ hplace⟩
  · by_cases hid : id = id'
    · subst hid
      rwa [if_pos rfl, getElem?_put, if_neg (hplace rfl)] at hnewq
    · rwa [if_neg hid] at hnewq
  · rw [group_putPage]
    by_cases hid : id = id'
    · subst hid
      rw [if_pos rfl, getElem?_put, if_neg (Ne.symm (hplace rfl))]
      exact hnewp
    · rwa [if_neg (Ne.symm hid)]

/-- The offset and envelope of a page of snapshot `id`. -/
def pageOf (codec : Codec Value) (bundle : PreparationBundle Value) (source : SnapshotSource)
    (id : ℤ) (page : SnapshotPage Value) : Option (ℕ × SnapshotEnvelope Value) :=
  match decodeSnapshotPage codec bundle source page with
  | .ok decoded => if decoded.1 = id then some (page.offset, decoded.2) else none
  | .error _ => none

theorem group_perm {pages : List (SnapshotPage Value)} {groups : PageGroups Value}
    (h : pages.foldlM (addPage codec bundle source) ∅ = .ok groups) :
    ∀ id : ℤ, (groups[id]?.getD ∅).toList.Perm
      (pages.filterMap (pageOf codec bundle source id)) := by
  refine foldlM_invariant (P := fun done groups => ∀ id : ℤ,
    (groups[id]?.getD ∅).toList.Perm (done.filterMap (pageOf codec bundle source id)))
    (fun id => ?_) (fun done groups page groups' hinv hstep id => ?_) h
  · rw [ExtTreeMap.getElem?_empty]
    exact List.Perm.refl []
  · obtain ⟨id', envelope, hdec, hnew, rfl⟩ := addPage_eq_ok.mp hstep
    rw [List.filterMap_append, group_putPage]
    by_cases hid : id' = id
    · subst hid
      have hpage : pageOf codec bundle source id' page = some (page.offset, envelope) := by
        rw [pageOf, hdec]
        exact if_pos rfl
      rw [if_pos rfl, List.filterMap_cons_some hpage]
      refine (toList_insert_perm hnew).trans ?_
      exact (List.Perm.cons _ (hinv id')).trans (List.perm_append_singleton _ _).symm
    · have hpage : pageOf codec bundle source id page = none := by
        rw [pageOf, hdec]
        exact if_neg hid
      rw [if_neg hid, List.filterMap_cons_none hpage, List.filterMap_nil, List.append_nil]
      exact hinv id

theorem decoded_of_group {pages : List (SnapshotPage Value)} {groups : PageGroups Value}
    (h : pages.foldlM (addPage codec bundle source) ∅ = .ok groups) :
    ∀ page ∈ pages, ∃ decoded, decodeSnapshotPage codec bundle source page = .ok decoded := by
  refine foldlM_invariant (P := fun done _ => ∀ page ∈ done, ∃ decoded,
    decodeSnapshotPage codec bundle source page = .ok decoded) (by simp) ?_ h
  intro done groups page groups' hinv hstep page' hmem
  rcases List.mem_append.mp hmem with hmem | hmem
  · exact hinv page' hmem
  · obtain ⟨id, envelope, hdec, -⟩ := addPage_eq_ok.mp hstep
    rw [List.mem_singleton] at hmem
    exact ⟨_, hmem ▸ hdec⟩

variable [DecidableEq Value]

/-! ## Assembly -/

/-- Entries that follow each other from row `start` on. -/
def Contiguous : ℕ → List (ℕ × SnapshotEnvelope Value) → Prop
  | _, [] => True
  | start, (offset, page) :: rest => offset = start ∧ Contiguous (start + page.rows.length) rest

/-- Equal publication metadata: everything but the rows, the next offset and the freshness. -/
def SameMetadata (page base : SnapshotEnvelope Value) : Prop :=
  { page with rows := [], nextOffset := none, state := base.state, quality := base.quality } = base

theorem assembleLoop_ok {base : SnapshotEnvelope Value}
    {entries : List (ℕ × SnapshotEnvelope Value)} {start : ℕ} {rows result : List Value}
    (h : assembleLoop base entries start rows = .ok result) :
    Contiguous start entries ∧ result = rows ++ entries.flatMap (fun entry => entry.2.rows) ∧
      ∀ entry ∈ entries, SameMetadata entry.2 base := by
  induction entries generalizing start rows with
  | nil =>
    rw [assembleLoop, Except.ok.injEq] at h
    exact ⟨trivial, by rw [← h, List.flatMap_nil, List.append_nil], by simp⟩
  | cons entry entries ih =>
    obtain ⟨offset, page⟩ := entry
    simp only [assembleLoop, ok_of_bind, ensure_eq_ok, context_eq_ok, exists_const,
      tryFrom_eq_some, checkedAdd_eq_some] at h
    obtain ⟨rfl, count, ⟨rfl, -⟩, next, ⟨rfl, -⟩, -, hmeta, hrest⟩ := h
    obtain ⟨hcont, hrows, hsame⟩ := ih hrest
    refine ⟨⟨rfl, hcont⟩, ?_, fun entry hentry => ?_⟩
    · rw [hrows, List.flatMap_cons, List.append_assoc]
    · rcases List.mem_cons.mp hentry with rfl | hentry
      · exact hmeta
      · exact hsame entry hentry

/-- **The pages of snapshot `id` cover its rows exactly**: ordered by offset they follow each other
without gap or overlap, and they agree on the publication. -/
structure PageCover (codec : Codec Value) (bundle : PreparationBundle Value)
    (source : SnapshotSource) (pages : List (SnapshotPage Value)) (id : ℤ)
    (snapshot : CompleteSnapshot Value) : Prop where
  id_eq : snapshot.snapshotId = id
  total : snapshot.rows.length = snapshot.envelope.totalRows
  cover : ∃ entries, entries.Perm (pages.filterMap (pageOf codec bundle source id)) ∧
    Contiguous 0 entries ∧ snapshot.rows = entries.flatMap (fun entry => entry.2.rows) ∧
    ∀ entry ∈ entries, SameMetadata entry.2 snapshot.envelope

theorem completeLoop_ok {entries : List (ℤ × BTreeMap ℕ (SnapshotEnvelope Value))} {totalRows : ℕ}
    {complete result : BTreeMap ℤ (CompleteSnapshot Value)}
    (h : completeLoop entries totalRows complete = .ok result)
    (hnodup : (entries.map Prod.fst).Nodup) :
    (∀ id group, (id, group) ∈ entries →
      ∃ snapshot, assembleSnapshot id group = .ok snapshot ∧ result[id]? = some snapshot) ∧
    ∀ id, id ∉ entries.map Prod.fst → result[id]? = complete[id]? := by
  induction entries generalizing totalRows complete with
  | nil =>
    rw [completeLoop, Except.ok.injEq] at h
    subst h
    simp
  | cons entry entries ih =>
    obtain ⟨id, group⟩ := entry
    simp only [completeLoop, ok_of_bind, ensure_eq_ok, exists_const] at h
    obtain ⟨snapshot, hsnap, -, hrest⟩ := h
    rw [List.map_cons, List.nodup_cons] at hnodup
    obtain ⟨hin, hout⟩ := ih hrest hnodup.2
    refine ⟨fun id' group' hmem => ?_, fun id' hid' => ?_⟩
    · rcases List.mem_cons.mp hmem with heq | hmem
      · obtain ⟨rfl, rfl⟩ := Prod.mk.inj heq
        refine ⟨snapshot, hsnap, ?_⟩
        rw [hout _ hnodup.1, getElem?_put, if_pos rfl]
      · exact hin id' group' hmem
    · rw [List.map_cons, List.mem_cons, not_or] at hid'
      rw [hout id' hid'.2, getElem?_put, if_neg (Ne.symm hid'.1)]

section Complete

variable {pages : List (SnapshotPage Value)} {complete : BTreeMap ℤ (CompleteSnapshot Value)}

theorem completeSnapshots_ok (h : completeSnapshots codec bundle source pages = .ok complete) :
    ∃ groups, pages.foldlM (addPage codec bundle source) ∅ = .ok groups ∧
      (∀ (id : ℤ) group, groups[id]? = some group →
        ∃ snapshot, assembleSnapshot id group = .ok snapshot ∧ complete[id]? = some snapshot) ∧
      ∀ id : ℤ, groups[id]? = none → complete[id]? = none := by
  simp only [completeSnapshots, ok_of_bind, ensure_eq_ok, exists_const] at h
  obtain ⟨-, groups, hgroups, h⟩ := h
  have hnodup : (groups.toList.map Prod.fst).Nodup := by
    rw [ExtTreeMap.map_fst_toList_eq_keys]
    exact ExtTreeMap.nodup_keys
  obtain ⟨hin, hout⟩ := completeLoop_ok h hnodup
  refine ⟨groups, hgroups, fun id group hgroup => ?_, fun id hnone => ?_⟩
  · exact hin id group (ExtTreeMap.mem_toList_iff_getElem?_eq_some.mpr hgroup)
  · rw [hout id, ExtTreeMap.getElem?_empty]
    rw [ExtTreeMap.map_fst_toList_eq_keys, mem_keys_iff, hnone]
    exact Bool.false_ne_true

/-- **Every snapshot is covered by its pages.** -/
theorem pageCover_of_completeSnapshots
    (h : completeSnapshots codec bundle source pages = .ok complete) {id : ℤ}
    {snapshot : CompleteSnapshot Value} (hget : complete[id]? = some snapshot) :
    PageCover codec bundle source pages id snapshot := by
  obtain ⟨groups, hgroups, hin, hout⟩ := completeSnapshots_ok h
  cases hgroup : groups[id]? with
  | none =>
    rw [hout id hgroup] at hget
    cases hget
  | some group =>
    obtain ⟨snapshot', hsnap, hget'⟩ := hin id group hgroup
    rw [hget, Option.some.injEq] at hget'
    subst hget'
    have hperm := group_perm hgroups id
    rw [hgroup, Option.getD_some] at hperm
    simp only [assembleSnapshot, ok_of_bind, ensure_eq_ok, ok_of_pure, exists_const] at hsnap
    obtain ⟨first, -, rows, hrows, htotal, rfl⟩ := hsnap
    obtain ⟨hcont, heq, hsame⟩ := assembleLoop_ok hrows
    rw [List.nil_append] at heq
    exact ⟨rfl, htotal, group.toList, hperm, hcont, heq, hsame⟩

/-- Every page belongs to an assembled snapshot. -/
theorem snapshot_of_page (h : completeSnapshots codec bundle source pages = .ok complete)
    {page : SnapshotPage Value} (hpage : page ∈ pages) :
    ∃ (id : ℤ) (snapshot : CompleteSnapshot Value), complete[id]? = some snapshot ∧
      (pageOf codec bundle source id page).isSome = true := by
  obtain ⟨groups, hgroups, hin, -⟩ := completeSnapshots_ok h
  obtain ⟨⟨id, envelope⟩, hdec⟩ := decoded_of_group hgroups page hpage
  have hof : pageOf codec bundle source id page = some (page.offset, envelope) := by
    rw [pageOf, hdec]
    exact if_pos rfl
  have hmem : (page.offset, envelope) ∈ (groups[id]?.getD ∅).toList := by
    rw [(group_perm hgroups id).mem_iff, List.mem_filterMap]
    exact ⟨page, hpage, hof⟩
  cases hgroup : groups[id]? with
  | none =>
    rw [hgroup, Option.getD_none] at hmem
    cases hmem
  | some group =>
    obtain ⟨snapshot, -, hget⟩ := hin id group hgroup
    exact ⟨id, snapshot, hget, by rw [hof]; rfl⟩

end Complete

/-- **The order of the pages does not matter.** -/
theorem completeSnapshots_perm {pages pages' : List (SnapshotPage Value)}
    {complete : BTreeMap ℤ (CompleteSnapshot Value)} (hperm : pages.Perm pages')
    (h : completeSnapshots codec bundle source pages = .ok complete) :
    completeSnapshots codec bundle source pages' = .ok complete := by
  simp only [completeSnapshots, ok_of_bind, ensure_eq_ok, exists_const] at h ⊢
  obtain ⟨hlen, groups, hgroups, h⟩ := h
  exact ⟨hperm.length_eq ▸ hlen, groups, foldlM_perm hperm addPage_comm hgroups, h⟩

end AdsControl.Optimizer
