import AdsControl.Position.Plan

/-!
# The queries of a batch

* `planningOf`: what the loop over the targets computes, `foldlM_addTarget`: when it does;
* **`new_spec`**: every target is in one query, which asks for its region, phrase and depth and for the
  products of its targets;
* **`new_perm`**: the order of the targets does not matter.
-/

namespace AdsControl.Position

open Fallible OrderedMap SortByKey Std Tally

variable (lowercase : String → String)

/-- Targets that may be planned together. -/
structure Plannable (targets : List MonitorTarget) : Prop where
  distinct : (targets.map MonitorTarget.monitorId).Nodup
  regionNames : ∀ target ∈ targets, ∀ other ∈ targets, other.regionCode = target.regionCode →
    other.regionName = target.regionName

/-- What the planning of all targets leaves. -/
def planningOf (targets : List MonitorTarget) : Planning where
  monitorIds := targets.foldl (fun ids target => ids.insert target.monitorId) ∅
  regionNames := targets.foldl
    (fun names target => names.insert target.regionCode.val target.regionName.val) ∅
  grouped := targets.foldl
    (gather (MonitorTarget.queryKey lowercase) [] fun group target => group ++ [target]) ∅

section Loop

variable {lowercase} {targets targets' : List MonitorTarget} {target : MonitorTarget} {planning : Planning}

theorem Plannable.perm (hperm : targets.Perm targets') (h : Plannable targets) : Plannable targets' where
  distinct := (hperm.map _).nodup_iff.mp h.distinct
  regionNames target htarget other hother :=
    h.regionNames target (hperm.mem_iff.mpr htarget) other (hperm.mem_iff.mpr hother)

theorem plannable_append : Plannable (targets ++ [target]) ↔ Plannable targets ∧
    target.monitorId ∉ targets.map MonitorTarget.monitorId ∧
    ∀ other ∈ targets, other.regionCode = target.regionCode → other.regionName = target.regionName := by
  constructor
  · rintro ⟨hdistinct, hnames⟩
    rw [List.map_append, List.map_singleton, List.nodup_append] at hdistinct
    refine ⟨⟨hdistinct.1, fun a ha b hb => ?_⟩, fun hmem => ?_, fun other hother => ?_⟩
    · exact hnames a (List.mem_append_left _ ha) b (List.mem_append_left _ hb)
    · exact hdistinct.2.2 _ hmem _ (List.mem_singleton_self _) rfl
    · exact hnames target (by simp) other (List.mem_append_left _ hother)
  · rintro ⟨⟨hdistinct, hnames⟩, hnew, hname⟩
    refine ⟨?_, fun a ha b hb hcode => ?_⟩
    · rw [List.map_append, List.map_singleton, List.nodup_append]
      refine ⟨hdistinct, List.nodup_singleton _, ?_⟩
      rintro id hid _ hlast rfl
      exact hnew (List.mem_singleton.mp hlast ▸ hid)
    · obtain ha | ha := List.mem_append.mp ha <;> obtain hb | hb := List.mem_append.mp hb
      · exact hnames a ha b hb hcode
      · rw [List.mem_singleton.mp hb] at hcode ⊢
        exact (hname a ha hcode.symm).symm
      · rw [List.mem_singleton.mp ha] at hcode ⊢
        exact hname b hb hcode
      · rw [List.mem_singleton.mp ha, List.mem_singleton.mp hb]

theorem planningOf_append : planningOf lowercase (targets ++ [target]) = {
    monitorIds := (planningOf lowercase targets).monitorIds.insert target.monitorId
    regionNames := (planningOf lowercase targets).regionNames.insert target.regionCode.val
      target.regionName.val
    grouped := gather (MonitorTarget.queryKey lowercase) [] (fun group target => group ++ [target])
      (planningOf lowercase targets).grouped target } := by
  simp [planningOf, List.foldl_append]

theorem mem_monitorIds {id : ℤ} :
    id ∈ (planningOf lowercase targets).monitorIds ↔ id ∈ targets.map MonitorTarget.monitorId := by
  induction targets using List.reverseRecOn with
  | nil => simp [planningOf]
  | append_singleton targets target ih =>
    rw [planningOf_append, ExtTreeSet.mem_insert, LawfulEqOrd.compare_eq_iff_eq, ih, List.map_append,
      List.mem_append, List.map_singleton, List.mem_singleton, or_comm, eq_comm]

theorem size_monitorIds (h : Plannable targets) :
    (planningOf lowercase targets).monitorIds.size = targets.length := by
  induction targets using List.reverseRecOn with
  | nil => rfl
  | append_singleton targets target ih =>
    obtain ⟨hrest, hnew, -⟩ := plannable_append.mp h
    rw [planningOf_append, ExtTreeSet.size_insert, if_neg, ih hrest, List.length_append, List.length_singleton]
    rwa [ExtTreeSet.contains_iff_mem, mem_monitorIds]

theorem getElem?_regionNames (h : Plannable targets) (code : String) (name : String) :
    (planningOf lowercase targets).regionNames[code]? = some name ↔
      ∃ target ∈ targets, target.regionCode.val = code ∧ target.regionName.val = name := by
  induction targets using List.reverseRecOn with
  | nil => simp [planningOf]
  | append_singleton targets target ih =>
    obtain ⟨hrest, -, hname⟩ := plannable_append.mp h
    rw [planningOf_append, getElem?_put]
    simp only [List.mem_append, List.mem_singleton, or_and_right, exists_or, exists_eq_left]
    by_cases hcode : target.regionCode.val = code
    · rw [if_pos hcode, Option.some.injEq]
      constructor
      · exact fun heq => .inr ⟨hcode, heq⟩
      · rintro (⟨other, hother, hother', rfl⟩ | ⟨-, heq⟩)
        · exact (congrArg Subtype.val (hname other hother (Subtype.ext (hother'.trans hcode.symm)))).symm
        · exact heq
    · rw [if_neg hcode, ih hrest, or_iff_left (fun hlast => hcode hlast.1)]

theorem addTarget_planningOf (h : Plannable targets) :
    addTarget lowercase (planningOf lowercase targets) target = .ok planning ↔
      Plannable (targets ++ [target]) ∧ planning = planningOf lowercase (targets ++ [target]) := by
  have hnames : ((planningOf lowercase targets).regionNames[target.regionCode.val]?.all
      (· = target.regionName.val)) = true ↔
      ∀ other ∈ targets, other.regionCode = target.regionCode → other.regionName = target.regionName := by
    rw [Option.all_eq_true]
    constructor
    · intro hall other hother hcode
      refine Subtype.ext (of_decide_eq_true (hall _
        ((getElem?_regionNames h _ _).mpr ⟨other, hother, ?_, rfl⟩)))
      rw [hcode]
    · intro hall name hname
      obtain ⟨other, hother, hcode, rfl⟩ := (getElem?_regionNames h _ _).mp hname
      rw [hall other hother (Subtype.ext hcode)]
      exact decide_eq_true rfl
  simp only [addTarget, ok_of_bind, ok_of_pure, ensure_eq_ok, mem_monitorIds, hnames, exists_const]
  rw [plannable_append, planningOf_append, eq_comm (a := planning)]
  tauto

/-- **The loop over the targets.** -/
theorem foldlM_addTarget : targets.foldlM (addTarget lowercase) {} = .ok planning ↔
    Plannable targets ∧ planning = planningOf lowercase targets := by
  induction targets using List.reverseRecOn generalizing planning with
  | nil =>
    have hnil : Plannable [] := ⟨List.nodup_nil, by simp⟩
    rw [List.foldlM_nil, ok_of_pure, eq_comm]
    exact (and_iff_right hnil).symm
  | append_singleton targets target ih =>
    rw [List.foldlM_append, ok_of_bind]
    simp only [List.foldlM_cons, List.foldlM_nil, bind_pure, ih]
    constructor
    · rintro ⟨_, ⟨hrest, rfl⟩, h⟩
      exact (addTarget_planningOf hrest).mp h
    · intro h
      have hrest := (plannable_append.mp h.1).1
      exact ⟨_, ⟨hrest, rfl⟩, (addTarget_planningOf hrest).mpr h⟩

theorem foldl_append_singleton {α : Type} (l done : List α) :
    l.foldl (fun l a => l ++ [a]) done = done ++ l := by
  induction l generalizing done with
  | nil => simp
  | cons a l ih => rw [List.foldl_cons, ih, List.append_assoc, List.singleton_append]

theorem getElem?_grouped (key : QueryKey) : (planningOf lowercase targets).grouped[key]? =
    if key ∈ targets.map (MonitorTarget.queryKey lowercase) then
      some (targets.filter fun target => target.queryKey lowercase = key) else none := by
  rw [planningOf, getElem?_foldl_gather, foldl_append_singleton, List.nil_append]
  split_ifs <;> rfl

end Loop

/-! ## Plans -/

/-- The queries of all targets. -/
def queriesOf (slot : ℤ) (targets : List MonitorTarget) : List QueryPlan :=
  ((planningOf lowercase targets).grouped.map (queryPlan slot)).toList.map Prod.snd

/-- What a query asks for: what each of its targets has, and their products in order. -/
structure Asks (targets : List MonitorTarget) (query : QueryPlan) : Prop where
  mem : ∀ target ∈ query.targets, target ∈ targets
  regionCode : ∀ target ∈ query.targets, query.request.regionCode = target.regionCode.val
  regionName : ∀ target ∈ query.targets, query.request.regionName = target.regionName.val
  phrase : ∀ target ∈ query.targets, normalizePhrase lowercase query.request.searchPhrase =
    normalizePhrase lowercase target.searchPhrase.val
  maxPosition : ∀ target ∈ query.targets, query.request.maxPosition = target.maxPosition
  products : ∀ product, product ∈ query.request.productIds ↔
    ∃ target ∈ query.targets, target.productId.val.val = product
  ordered : query.request.productIds.Pairwise fun product other => compare product other = .lt

section Plans

variable {lowercase} {slot : ℤ} {targets targets' : List MonitorTarget} {target : MonitorTarget}
  {query : QueryPlan} {plan : BatchPlan} {key : QueryKey}

/-- The targets of a key. -/
def groupOf (lowercase : String → String) (key : QueryKey) (targets : List MonitorTarget) :
    List MonitorTarget :=
  targets.filter fun target => target.queryKey lowercase = key

theorem mem_groupOf : target ∈ groupOf lowercase key targets ↔
    target ∈ targets ∧ target.queryKey lowercase = key := by
  simp [groupOf]

theorem mem_entries {entry : QueryKey × QueryPlan} :
    entry ∈ ((planningOf lowercase targets).grouped.map (queryPlan slot)).toList ↔
      entry.1 ∈ targets.map (MonitorTarget.queryKey lowercase) ∧
        entry.2 = queryPlan slot entry.1 (groupOf lowercase entry.1 targets) := by
  obtain ⟨key, query⟩ := entry
  rw [ExtTreeMap.mem_toList_iff_getElem?_eq_some, ExtTreeMap.getElem?_map, getElem?_grouped]
  split_ifs with h
  · simp only [Option.map_some, Option.some.injEq, h, true_and]
    exact eq_comm
  · simp [h]

theorem mem_queriesOf : query ∈ queriesOf lowercase slot targets ↔
    ∃ key ∈ targets.map (MonitorTarget.queryKey lowercase),
      query = queryPlan slot key (groupOf lowercase key targets) := by
  rw [queriesOf, List.mem_map]
  simp only [mem_entries, Prod.exists, exists_eq_right]

theorem mem_queryPlan_targets : target ∈ (queryPlan slot key (groupOf lowercase key targets)).targets ↔
    target ∈ targets ∧ target.queryKey lowercase = key :=
  mem_sortByKey.trans mem_groupOf

theorem ordered_products (products : ExtTreeSet String) :
    products.toList.Pairwise fun product other => compare product other = .lt :=
  ExtTreeSet.ordered_toList

theorem asks_queryPlan (h : Plannable targets) :
    Asks lowercase targets (queryPlan slot key (groupOf lowercase key targets)) := by
  -- the first monitor has the region and the phrase of every other one
  have hkey : ∀ target ∈ (queryPlan slot key (groupOf lowercase key targets)).targets,
      target ∈ targets ∧ target.queryKey lowercase = key := fun _ htarget => mem_queryPlan_targets.mp htarget
  have hparts : ∀ target : MonitorTarget, target.queryKey lowercase = key →
      (ofLex key).1 = target.regionCode.val ∧
      (ofLex (ofLex key).2).1 = normalizePhrase lowercase target.searchPhrase.val ∧
      (ofLex (ofLex key).2).2 = target.maxPosition := by
    rintro target rfl
    exact ⟨rfl, rfl, rfl⟩
  have hfirst : ∀ target ∈ (queryPlan slot key (groupOf lowercase key targets)).targets,
      ∃ first ∈ targets, first.queryKey lowercase = key ∧
        (queryPlan slot key (groupOf lowercase key targets)).request.regionName = first.regionName.val ∧
        (queryPlan slot key (groupOf lowercase key targets)).request.searchPhrase = first.searchPhrase.val := by
    intro target htarget
    cases hsorted : sortByKey MonitorTarget.monitorId (groupOf lowercase key targets) with
    | nil =>
      have hnil : target ∈ sortByKey MonitorTarget.monitorId (groupOf lowercase key targets) := htarget
      rw [hsorted] at hnil
      cases hnil
    | cons first rest =>
      have hmem : first ∈ sortByKey MonitorTarget.monitorId (groupOf lowercase key targets) := by
        rw [hsorted]
        exact List.mem_cons_self
      obtain ⟨hmem, hfirstKey⟩ := hkey first hmem
      exact ⟨first, hmem, hfirstKey, by simp [queryPlan, hsorted], by simp [queryPlan, hsorted]⟩
  refine ⟨fun target htarget => (hkey target htarget).1, fun target htarget => ?_, fun target htarget => ?_,
    fun target htarget => ?_, fun target htarget => ?_, fun product => ?_, ?_⟩
  · exact (hparts target (hkey target htarget).2).1
  · obtain ⟨first, hmem, hfirstKey, hname, -⟩ := hfirst target htarget
    rw [hname]
    have hcode := (hparts first hfirstKey).1.symm.trans (hparts target (hkey target htarget).2).1
    exact congrArg Subtype.val (h.regionNames target (hkey target htarget).1 first hmem (Subtype.ext hcode))
  · obtain ⟨first, -, hfirstKey, -, hphrase⟩ := hfirst target htarget
    rw [hphrase, ← (hparts first hfirstKey).2.1, (hparts target (hkey target htarget).2).2.1]
  · exact (hparts target (hkey target htarget).2).2.2
  · show product ∈ (ExtTreeSet.ofList _).toList ↔ _
    rw [ExtTreeSet.mem_toList, ExtTreeSet.mem_ofList, List.contains_iff_mem, List.mem_map]
    rfl
  · exact ordered_products (ExtTreeSet.ofList ((sortByKey MonitorTarget.monitorId
      (groupOf lowercase key targets)).map fun target => target.productId.val.val))

theorem nodup_queriesOf : (queriesOf lowercase slot targets).Pairwise fun query other =>
    query.targets.Disjoint other.targets := by
  rw [queriesOf, List.pairwise_map]
  refine ExtTreeMap.distinct_keys_toList.imp_of_mem fun hentry hother hkeys => ?_
  obtain ⟨-, hquery⟩ := mem_entries.mp hentry
  obtain ⟨-, hquery'⟩ := mem_entries.mp hother
  intro target htarget htarget'
  rw [hquery] at htarget
  rw [hquery'] at htarget'
  refine hkeys (LawfulEqOrd.compare_eq_iff_eq.mpr ?_)
  rw [← (mem_queryPlan_targets.mp htarget).2, (mem_queryPlan_targets.mp htarget').2]

/-- **The queries have the targets, each of them once.** -/
theorem flatMap_queriesOf (h : Plannable targets) :
    ((queriesOf lowercase slot targets).flatMap QueryPlan.targets).Perm targets := by
  have htargets : targets.Nodup := h.distinct.of_map _
  refine (List.perm_ext_iff_of_nodup ?_ htargets).mpr fun target => ?_
  · refine List.nodup_flatMap.mpr ⟨fun query hquery => ?_, nodup_queriesOf⟩
    obtain ⟨key, -, rfl⟩ := mem_queriesOf.mp hquery
    exact (sortByKey_perm _ _).nodup_iff.mpr (htargets.filter _)
  · rw [List.mem_flatMap]
    constructor
    · rintro ⟨query, hquery, htarget⟩
      obtain ⟨key, -, rfl⟩ := mem_queriesOf.mp hquery
      exact (mem_queryPlan_targets.mp htarget).1
    · intro htarget
      refine ⟨_, mem_queriesOf.mpr ⟨target.queryKey lowercase, List.mem_map_of_mem htarget, rfl⟩, ?_⟩
      exact mem_queryPlan_targets.mpr ⟨htarget, rfl⟩

/-- A target is in one query. -/
theorem existsUnique_query (htarget : target ∈ targets) :
    ∃! query, query ∈ queriesOf lowercase slot targets ∧ target ∈ query.targets := by
  refine ⟨_, ⟨mem_queriesOf.mpr ⟨target.queryKey lowercase, List.mem_map_of_mem htarget, rfl⟩,
    mem_queryPlan_targets.mpr ⟨htarget, rfl⟩⟩, ?_⟩
  rintro query ⟨hquery, hmem⟩
  obtain ⟨key, -, rfl⟩ := mem_queriesOf.mp hquery
  rw [(mem_queryPlan_targets.mp hmem).2]

/-- **The groups of a permutation** have the same queries. -/
theorem map_grouped_perm (h : Plannable targets) (hperm : targets.Perm targets') :
    (planningOf lowercase targets).grouped.map (queryPlan slot) =
      (planningOf lowercase targets').grouped.map (queryPlan slot) := by
  refine ExtTreeMap.ext_getElem? fun key => ?_
  rw [ExtTreeMap.getElem?_map, ExtTreeMap.getElem?_map, getElem?_grouped, getElem?_grouped]
  have hkeys : key ∈ targets.map (MonitorTarget.queryKey lowercase) ↔
      key ∈ targets'.map (MonitorTarget.queryKey lowercase) := (hperm.map _).mem_iff
  by_cases hkey : key ∈ targets.map (MonitorTarget.queryKey lowercase)
  · rw [if_pos hkey, if_pos (hkeys.mp hkey), Option.map_some, Option.map_some, Option.some.injEq]
    have hsorted : sortByKey MonitorTarget.monitorId (groupOf lowercase key targets) =
        sortByKey MonitorTarget.monitorId (groupOf lowercase key targets') :=
      sortByKey_eq_of_perm (hperm.filter _) (h.distinct.sublist (List.filter_sublist.map _))
    show queryPlan slot key (groupOf lowercase key targets) =
      queryPlan slot key (groupOf lowercase key targets')
    rw [queryPlan, hsorted, queryPlan]
  · rw [if_neg hkey, if_neg (hkey ∘ hkeys.mpr)]

/-- **When targets are planned, and how.** -/
theorem new_eq_ok : BatchPlan.new lowercase slot targets = .ok plan ↔
    isAlignedSlot slot = true ∧ (targets ≠ [] ∧ targets.length ≤ maxTargetsPerBatch) ∧ Plannable targets ∧
      (planningOf lowercase targets).grouped.size ≤ maxQueriesPerBatch ∧
      (∃ counts, (planningOf lowercase targets).grouped.keys.foldlM
        (gatherM (fun key => (ofLex key).1) 0 countRegionQuery) ∅ = .ok counts) ∧
      plan = ⟨slot, queriesOf lowercase slot targets, targets.length⟩ := by
  simp only [BatchPlan.new, ok_of_bind, ok_of_pure, ensure_eq_ok, foldlM_addTarget, exists_const]
  constructor
  · rintro ⟨hslot, hcount, _, ⟨hplannable, rfl⟩, hqueries, counts, hregions, rfl⟩
    refine ⟨hslot, hcount, hplannable, hqueries, ⟨counts, hregions⟩, ?_⟩
    rw [size_monitorIds hplannable]
    rfl
  · rintro ⟨hslot, hcount, hplannable, hqueries, ⟨counts, hregions⟩, rfl⟩
    refine ⟨hslot, hcount, _, ⟨hplannable, rfl⟩, hqueries, counts, hregions, ?_⟩
    rw [size_monitorIds hplannable]
    rfl

/-- **The order of the targets does not matter.** -/
theorem new_perm (h : BatchPlan.new lowercase slot targets = .ok plan) (hperm : targets.Perm targets') :
    BatchPlan.new lowercase slot targets' = .ok plan := by
  obtain ⟨hslot, ⟨hne, hlength⟩, hplannable, hqueries, ⟨counts, hregions⟩, rfl⟩ := new_eq_ok.mp h
  have hmap : (planningOf lowercase targets).grouped.map (queryPlan slot) =
      (planningOf lowercase targets').grouped.map (queryPlan slot) := map_grouped_perm hplannable hperm
  have hkeys : (planningOf lowercase targets').grouped.keys = (planningOf lowercase targets).grouped.keys := by
    rw [← ExtTreeMap.keys_map (f := queryPlan slot), ← hmap, ExtTreeMap.keys_map]
  have hsize : (planningOf lowercase targets').grouped.size = (planningOf lowercase targets).grouped.size := by
    rw [← ExtTreeMap.length_keys, hkeys, ExtTreeMap.length_keys]
  refine new_eq_ok.mpr ⟨hslot, ⟨fun hnil => hne ?_, ?_⟩, hplannable.perm hperm, ?_, ⟨counts, ?_⟩, ?_⟩
  · exact List.perm_nil.mp (hnil ▸ hperm)
  · rw [← hperm.length_eq]
    exact hlength
  · rw [hsize]
    exact hqueries
  · rw [hkeys]
    exact hregions
  · rw [queriesOf, hmap, hperm.length_eq]
    rfl

end Plans

/-! ## Scans -/

/-- The hits of a product. -/
def hitsOf (product : String) (hits : List SearchHit) : List SearchHit :=
  hits.filter fun hit => hit.productId.val.val = product

/-- The best of some positions. -/
def positionsOf (hits : List SearchHit) : HitPositions :=
  hits.foldl (fun positions hit => positions.record hit.overallPosition hit.placement) {}

/-- **What a product was found at**: its least position, with the placement there, and the least ones among
organic and sponsored hits. -/
structure Best (hits : List SearchHit) (positions : HitPositions) : Prop where
  overall : IsLeast {n | ∃ hit ∈ hits, hit.overallPosition = n} positions.overallPosition
  placement : ∃ hit ∈ hits, hit.overallPosition = positions.overallPosition ∧
    hit.placement = positions.overallPlacement
  organic : positions.organicPosition =
    ((hits.filter fun hit => hit.placement = .organic).map SearchHit.overallPosition).min?
  sponsored : positions.sponsoredPosition =
    ((hits.filter fun hit => hit.placement = .sponsored).map SearchHit.overallPosition).min?

section Scans

variable {hits : List SearchHit} {hit : SearchHit} {product : String} {maxPosition : ℕ}
  {found : ExtTreeMap String HitPositions} {scan : QueryScan} {plan : QueryPlan}
  {observations : List Observation}

theorem updateBest_min? (positions : List ℕ) (position : ℕ) :
    updateBest positions.min? position = (positions ++ [position]).min? := by
  rw [updateBest]
  cases hmin : positions.min? with
  | none =>
    rw [List.min?_eq_none_iff.mp hmin]
    rfl
  | some least =>
    obtain ⟨hmem, hle⟩ := List.min?_eq_some_iff.mp hmin
    symm
    simp only [Option.all_some, decide_eq_true_eq]
    split_ifs with h
    · refine List.min?_eq_some_iff.mpr ⟨by simp, fun n hn => ?_⟩
      obtain hn | hn := List.mem_append.mp hn
      · exact h.le.trans (hle n hn)
      · exact (List.mem_singleton.mp hn).ge
    · refine List.min?_eq_some_iff.mpr ⟨List.mem_append_left _ hmem, fun n hn => ?_⟩
      obtain hn | hn := List.mem_append.mp hn
      · exact hle n hn
      · rw [List.mem_singleton.mp hn]
        omega

theorem positionsOf_append : positionsOf (hits ++ [hit]) =
    (positionsOf hits).record hit.overallPosition hit.placement := by
  rw [positionsOf, List.foldl_append]
  rfl

theorem placed_positionsOf (hits : List SearchHit) :
    (positionsOf hits).organicPosition =
      ((hits.filter fun hit => hit.placement = .organic).map SearchHit.overallPosition).min? ∧
    (positionsOf hits).sponsoredPosition =
      ((hits.filter fun hit => hit.placement = .sponsored).map SearchHit.overallPosition).min? := by
  induction hits using List.reverseRecOn with
  | nil => exact ⟨rfl, rfl⟩
  | append_singleton hits hit ih =>
    obtain ⟨horganic, hsponsored⟩ := ih
    rw [positionsOf_append, HitPositions.record, horganic, hsponsored, List.filter_append, List.filter_append,
      List.map_append, List.map_append]
    cases hplacement : hit.placement <;> simp [hplacement, updateBest_min?]

theorem overall_positionsOf (hits : List SearchHit) :
    hits = [] ∧ (positionsOf hits).overallPosition = 0 ∨
      ∃ hit ∈ hits, hit.overallPosition = (positionsOf hits).overallPosition ∧
        hit.placement = (positionsOf hits).overallPlacement ∧
        ∀ other ∈ hits, (positionsOf hits).overallPosition ≤ other.overallPosition := by
  induction hits using List.reverseRecOn with
  | nil => exact .inl ⟨rfl, rfl⟩
  | append_singleton hits hit ih =>
    right
    rw [positionsOf_append, HitPositions.record]
    dsimp only
    by_cases h : (positionsOf hits).overallPosition = 0 ∨
        hit.overallPosition < (positionsOf hits).overallPosition
    · rw [if_pos h, if_pos h]
      refine ⟨hit, by simp, rfl, rfl, fun other hother => ?_⟩
      obtain hother | hother := List.mem_append.mp hother
      · obtain ⟨rfl, -⟩ | ⟨best, -, hbest, -, hle⟩ := ih
        · cases hother
        · have hpos := best.overallPosition_pos
          have hother := hle other hother
          omega
      · rw [List.mem_singleton.mp hother]
    · rw [if_neg h, if_neg h]
      obtain ⟨-, hzero⟩ | ⟨best, hmem, hbest, hplacement, hle⟩ := ih
      · exact absurd (.inl hzero) h
      · refine ⟨best, List.mem_append_left _ hmem, hbest, hplacement, fun other hother => ?_⟩
        obtain hother | hother := List.mem_append.mp hother
        · exact hle other hother
        · rw [List.mem_singleton.mp hother]
          omega

theorem best_positionsOf (hne : hits ≠ []) : Best hits (positionsOf hits) := by
  obtain ⟨hnil, -⟩ | ⟨hit, hmem, hposition, hplacement, hle⟩ := overall_positionsOf hits
  · exact absurd hnil hne
  · obtain ⟨horganic, hsponsored⟩ := placed_positionsOf hits
    refine ⟨⟨⟨hit, hmem, hposition⟩, ?_⟩, ⟨hit, hmem, hposition, hplacement⟩, horganic, hsponsored⟩
    rintro _ ⟨other, hother, rfl⟩
    exact hle other hother

theorem foldlM_recordHit : hits.foldlM (recordHit maxPosition) ∅ = .ok found ↔
    (∀ hit ∈ hits, hit.overallPosition ≤ maxPosition) ∧
      found = hits.foldl (gather (fun hit : SearchHit => hit.productId.val.val) {}
        fun positions hit => positions.record hit.overallPosition hit.placement) ∅ := by
  induction hits using List.reverseRecOn generalizing found with
  | nil =>
    rw [List.foldlM_nil, ok_of_pure, List.foldl_nil, eq_comm]
    simp
  | append_singleton hits hit ih =>
    rw [List.foldlM_append, ok_of_bind, List.foldl_append]
    simp only [List.foldlM_cons, List.foldlM_nil, bind_pure, ih, recordHit, ok_of_bind, ok_of_pure,
      ensure_eq_ok, exists_const, List.mem_append, List.mem_singleton, or_imp, forall_and, forall_eq]
    constructor
    · rintro ⟨_, ⟨hrest, rfl⟩, hhit, rfl⟩
      exact ⟨⟨hrest, hhit⟩, rfl⟩
    · rintro ⟨⟨hrest, hhit⟩, rfl⟩
      exact ⟨_, ⟨hrest, rfl⟩, hhit, rfl⟩

/-- The observation of a target in a scan. -/
def observationOf (scan : QueryScan) (target : MonitorTarget) : Observation where
  monitorId := target.monitorId
  observedAt := scan.observedAt
  outcome := if hitsOf target.productId.val.val scan.hits = [] then .notFound
    else (positionsOf (hitsOf target.productId.val.val scan.hits)).outcome

/-- **A scan that is read** is of the region, complete, in its slot and within the depth of the query, and
every target is observed. -/
theorem intoObservations_eq_ok (h : scan.intoObservations plan = .ok observations) :
    observations = plan.targets.map (observationOf scan) ∧
      scan.regionCode = plan.request.regionCode ∧ scan.regionConfirmed = true ∧ scan.completeTopN = true ∧
      (plan.request.slot ≤ scan.observedAt ∧ scan.observedAt < plan.request.slot + seconds 1800) ∧
      ∀ hit ∈ scan.hits, hit.overallPosition ≤ plan.request.maxPosition := by
  simp only [QueryScan.intoObservations, ok_of_bind, ok_of_pure, ensure_eq_ok, context_eq_ok, exists_const,
    checkedAddSigned, inCalendar_eq_some, foldlM_recordHit] at h
  obtain ⟨hregion, hconfirmed, hcomplete, _, ⟨rfl, -⟩, hslot, -, _, ⟨hposition, rfl⟩, rfl⟩ := h
  refine ⟨List.map_congr_left fun target _ => ?_, hregion, hconfirmed, hcomplete, hslot, hposition⟩
  rw [getElem?_foldl_gather, observationOf]
  congr 1
  have hmem : target.productId.val.val ∈ scan.hits.map (fun hit => hit.productId.val.val) ↔
      hitsOf target.productId.val.val scan.hits ≠ [] := by
    simp [hitsOf, List.filter_eq_nil_iff]
  by_cases hnil : hitsOf target.productId.val.val scan.hits = []
  · rw [if_pos hnil, if_neg (hmem.not.mpr (not_not_intro hnil))]
    rfl
  · rw [if_neg hnil, if_pos (hmem.mpr hnil)]
    rfl

/-- **What an observation says**: found at the least position of the hits of the product, or not found
because there is none. -/
theorem outcome_observationOf (scan : QueryScan) (target : MonitorTarget) :
    (∀ n, (∃ organic sponsored placement,
        (observationOf scan target).outcome = .found n organic sponsored placement) ↔
      IsLeast {n | ∃ hit ∈ hitsOf target.productId.val.val scan.hits, hit.overallPosition = n} n) ∧
    ((observationOf scan target).outcome = .notFound ↔ hitsOf target.productId.val.val scan.hits = []) := by
  unfold observationOf
  by_cases hnil : hitsOf target.productId.val.val scan.hits = []
  · simp [hnil, IsLeast]
  · have hleast := (best_positionsOf hnil).overall
    rw [if_neg hnil]
    refine ⟨fun n => ⟨?_, fun h => ?_⟩, iff_of_false nofun hnil⟩
    · rintro ⟨_, _, _, ⟨⟩⟩
      exact hleast
    · obtain rfl := hleast.unique h
      exact ⟨_, _, _, rfl⟩

end Scans

end AdsControl.Position
