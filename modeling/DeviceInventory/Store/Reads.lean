import DeviceInventory.Store.Records

/-!
# Reading back what was written

The reads of the store after its writes, on a store that does not fail.  A group
assigned is the group `GetDeviceGroup` reports, and the unset of that group takes
it away again; a deleted device is gone for `GetDevice` and `GetDeviceGroup`, a
second delete reports it missing, and every other device reads as before; a
second `UpdateDevicesGroup` with the same arguments changes nothing; and the two
group listings agree.  The group reads report what the inventory records, and a
device upserted under the nil id is listed but never read.

## Main definitions

* `AttrMap.group`, `inventoryGroup` — the group a record holds, and
  `GetDeviceGroup` on the inventory.

## Main statements

* `group_round_trip` — assign, read, unset, read.
* `deleteDevice_round_trip` — delete, read, delete again.
* `updateDevicesGroup_idempotent` — the bulk assignment, twice.
* `listGroups_iff_getDevicesByGroup` — in every state valid calls reach,
  `ListGroups` lists exactly the groups `GetDevicesByGroup` finds.
* `group_reads_refine` — after every run of valid, ordinary calls, `GetDeviceGroup`
  and `ListGroups` read the inventory's groups (`inventoryGroup`, `AttrMap.group`).
* `nil_device_unreadable` — a device upserted under the nil id: listed by
  `GetDevices`, absent for `GetDevice` and `GetDeviceGroup`.
-/

namespace DeviceInventory

/-! ### The group a device reads as -/

theorem Doc.Replaced.group {g : String} {d e : Doc} (h : Doc.Replaced groupPath (groupRecord g).encode d e) :
    e.group = g := by
  have hv : e.get groupValuePath = some (.scalar (.str g)) := h.get_append [dbDevAttributesValue]
  simp only [Doc.group, hv]

theorem Doc.Cleared.group {d e : Doc} (h : Doc.Cleared groupPath d e) : e.group = "" := by
  simp only [Doc.group, show e.get groupValuePath = none from h.get_append _]

theorem Doc.inGroup_of_get {d : Doc} {g : String} (h : d.get groupValuePath = some (.scalar (.str g))) :
    d.InGroup g = true := by
  simp [Doc.InGroup, eqMatch, h, Leaf.holds]

/-- A document that already holds the record written reads as before. -/
theorem Doc.Replaced.get_eq_of_holds {p : Path} {v : Subtree} {d e : Doc} (h : Doc.Replaced p v d e)
    (hd : ∀ r, d.get (p ++ r) = leafAt v r) (q : Path) : e.get q = d.get q := by
  by_cases hq : p <+: q
  · obtain ⟨r, rfl⟩ := hq
    rw [h.get_append, hd]
  · exact h.2.2 q hq

/-! ### Round trips -/

/-- **A group assigned is the group read back, and its unset takes it away**: on a
store that does not fail, for a device that exists, `GetDeviceGroup` after
`UpdateDeviceGroup` with `g` reports `g`; `UnsetDeviceGroup` with `g` then
succeeds, and `GetDeviceGroup` reports no group. -/
theorem group_round_trip {c : Collection} {id : DeviceID} (hid : id ≠ nilDeviceID)
    (hd : (c.find? id).isSome) (g : String) :
    getDeviceGroup .healthy (updateDeviceGroup .healthy c id g).2 id = .ok g ∧
      (unsetDeviceGroup .healthy (updateDeviceGroup .healthy c id g).2 id g).1 = .ok () ∧
      getDeviceGroup .healthy (unsetDeviceGroup .healthy (updateDeviceGroup .healthy c id g).2 id g).2 id =
        .ok "" := by
  obtain ⟨d, hd⟩ := Option.isSome_iff_exists.mp hd
  obtain ⟨e, he, -, hfind⟩ := updateDeviceGroup_present g hd
  have he' : (updateDeviceGroup .healthy c id g).2.find? id = some e := by rw [hfind, if_pos rfl]
  have hrep := setGroupUpdate_replaced he
  have hin : e.InGroup g = true := Doc.inGroup_of_get (hrep.get_append [dbDevAttributesValue])
  obtain ⟨hres, hrel⟩ := unsetDeviceGroup_healthy (updateDeviceGroup .healthy c id g).2 id g
  refine ⟨by simp only [getDeviceGroup, getDevice_healthy _ hid, he', hrep.group], by
    simp only [hres, he', Option.any_some, hin, if_true], ?_⟩
  have hrel' := hrel id
  rw [he'] at hrel'
  simp only [getDeviceGroup, getDevice_healthy _ hid]
  generalize (unsetDeviceGroup .healthy (updateDeviceGroup .healthy c id g).2 id g).2.find? id = o at hrel'
  cases hrel' with
  | some hcl =>
      simp only [true_and, hin, ite_true] at hcl
      simp only [hcl.group]

/-- The device `a`, added without a group, assigned `g` and taken out of it. -/
theorem group_round_trip_a :
    "a" ≠ nilDeviceID ∧ ((addDevice .healthy 0 Collection.empty ⟨"a", [], ""⟩).2.find? "a").isSome ∧
    (getDeviceGroup .healthy (updateDeviceGroup .healthy
        (addDevice .healthy 0 Collection.empty ⟨"a", [], ""⟩).2 "a" "g").2 "a" = .ok "g" ∧
      (unsetDeviceGroup .healthy (updateDeviceGroup .healthy
        (addDevice .healthy 0 Collection.empty ⟨"a", [], ""⟩).2 "a" "g").2 "a" "g").1 = .ok () ∧
      getDeviceGroup .healthy (unsetDeviceGroup .healthy (updateDeviceGroup .healthy
        (addDevice .healthy 0 Collection.empty ⟨"a", [], ""⟩).2 "a" "g").2 "a" "g").2 "a" = .ok "") :=
  ⟨by decide, by decide, group_round_trip (by decide) (by decide) "g"⟩

/-- **A deleted device is gone, and only it**: on a store that does not fail, for a
device that exists, `DeleteDevice` succeeds; `GetDevice` then finds nothing and
`GetDeviceGroup` reports `ErrDevNotFound`; a second `DeleteDevice` reports
`ErrDevNotFound`; and `GetDevice` returns for every other id what it did before. -/
theorem deleteDevice_round_trip {c : Collection} {id : DeviceID} (hid : id ≠ nilDeviceID)
    (hd : (c.find? id).isSome) :
    (deleteDevice .healthy c id).1 = .ok () ∧
      getDevice .healthy (deleteDevice .healthy c id).2 id = .ok none ∧
      getDeviceGroup .healthy (deleteDevice .healthy c id).2 id = .error (.error .devNotFound) ∧
      (deleteDevice .healthy (deleteDevice .healthy c id).2 id).1 = .error (.error .devNotFound) ∧
      ∀ id', id' ≠ id → getDevice .healthy (deleteDevice .healthy c id).2 id' = getDevice .healthy c id' := by
  obtain ⟨hres, hfind⟩ := deleteDevice_healthy c id
  have hgone : (deleteDevice .healthy c id).2.find? id = none := by rw [hfind, if_pos rfl]
  refine ⟨by rw [hres, if_pos hd], by rw [getDevice_healthy _ hid, hgone], ?_, ?_, fun id' hne => ?_⟩
  · simp only [getDeviceGroup, getDevice_healthy _ hid, hgone]
  · rw [(deleteDevice_healthy _ id).1, hgone]; rfl
  · by_cases hnil : id' = nilDeviceID
    · simp only [getDevice, if_pos hnil]
    · rw [getDevice_healthy _ hnil, getDevice_healthy _ hnil, hfind, if_neg hne]

/-- The device `a` deleted from a store that also holds `b`. -/
theorem deleteDevice_round_trip_a :
    "a" ≠ nilDeviceID ∧ ((addDevice .healthy 0 (addDevice .healthy 0 Collection.empty
        ⟨"b", [], ""⟩).2 ⟨"a", [], ""⟩).2.find? "a").isSome ∧
    ((deleteDevice .healthy (addDevice .healthy 0 (addDevice .healthy 0 Collection.empty
        ⟨"b", [], ""⟩).2 ⟨"a", [], ""⟩).2 "a").1 = .ok () ∧
      getDevice .healthy (deleteDevice .healthy (addDevice .healthy 0 (addDevice .healthy 0
        Collection.empty ⟨"b", [], ""⟩).2 ⟨"a", [], ""⟩).2 "a").2 "a" = .ok none ∧
      getDeviceGroup .healthy (deleteDevice .healthy (addDevice .healthy 0 (addDevice .healthy 0
        Collection.empty ⟨"b", [], ""⟩).2 ⟨"a", [], ""⟩).2 "a").2 "a" = .error (.error .devNotFound) ∧
      (deleteDevice .healthy (deleteDevice .healthy (addDevice .healthy 0 (addDevice .healthy 0
        Collection.empty ⟨"b", [], ""⟩).2 ⟨"a", [], ""⟩).2 "a").2 "a").1 = .error (.error .devNotFound) ∧
      ∀ id', id' ≠ "a" → getDevice .healthy (deleteDevice .healthy (addDevice .healthy 0
        (addDevice .healthy 0 Collection.empty ⟨"b", [], ""⟩).2 ⟨"a", [], ""⟩).2 "a").2 id' =
          getDevice .healthy (addDevice .healthy 0 (addDevice .healthy 0 Collection.empty
            ⟨"b", [], ""⟩).2 ⟨"a", [], ""⟩).2 id') :=
  ⟨by decide, by decide, deleteDevice_round_trip (by decide) (by decide)⟩

/-- **`UpdateDevicesGroup` is idempotent**: on a store that does not fail, a second
call with the same ids and group modifies no device, and leaves every device
reading as it did after the first. -/
theorem updateDevicesGroup_idempotent (c : Collection) (ids : List DeviceID) (g : String) :
    (∃ matched, (updateDevicesGroup .healthy (updateDevicesGroup .healthy c ids g).2 ids g).1 =
        .ok (matched, 0)) ∧
      ∀ id, Option.Rel (fun d e => ∀ q, e.get q = d.get q)
        ((updateDevicesGroup .healthy c ids g).2.find? id)
        ((updateDevicesGroup .healthy (updateDevicesGroup .healthy c ids g).2 ids g).2.find? id) := by
  -- after the first call, every listed device stores the record as written
  have hholds : ∀ d ∈ (updateDevicesGroup .healthy c ids g).2.docs, d.id ∈ ids →
      d.valueAt groupPath = (groupRecord g).encode := by
    intro d hd hin
    have hrel := (updateDevicesGroup_healthy c ids g).2 d.id
    rw [Collection.find?_eq_some_iff.mpr ⟨hd, rfl⟩] at hrel
    generalize c.find? d.id = o at hrel
    cases hrel with
    | some hrep => rw [if_pos hin] at hrep; exact hrep.2.1
  have hzero : (updateDevicesGroup .healthy c ids g).2.docs.countP
      (fun d => ids.contains d.id && !decide (d.valueAt groupPath = (groupRecord g).encode)) = 0 :=
    List.countP_eq_zero.mpr fun d hd hmod => by
      simp only [Bool.and_eq_true, List.elem_eq_mem, decide_eq_true_eq, Bool.not_eq_true',
        decide_eq_false_iff_not] at hmod
      exact hmod.2 (hholds d hd hmod.1)
  obtain ⟨hres, hrel⟩ := updateDevicesGroup_healthy (updateDevicesGroup .healthy c ids g).2 ids g
  refine ⟨⟨((updateDevicesGroup .healthy c ids g).2.docs.countP (ids.contains ·.id) : Int), by
    rw [hres, hzero]; rfl⟩, fun id => rel_imp (hrel id) fun d e hd hde => ?_⟩
  · have hmem := Collection.find?_eq_some_iff.mp hd
    split_ifs at hde with hin
    · exact hde.get_eq_of_holds (Doc.get_append_of_valueAt (hholds d hmem.1 (hmem.2 ▸ hin)))
    · exact fun q => by rw [hde]

/-! ### The two group listings -/

/-- Every device of a state valid calls reach keeps the group invariant. -/
theorem groupOk_reachable {c : Collection} (hc : Reachable Op.Valid c) : ∀ d ∈ c.docs, d.GroupOk :=
  Reachable.invariant (P := fun c => ∀ d ∈ c.docs, d.GroupOk) (fun _ h => absurd h (List.not_mem_nil _))
    (fun net now _ _ hop ih => groupOk_step net now hop ih) hc

/-- `ListGroups` on a store whose devices keep the group invariant: the names the
devices hold. -/
theorem listGroups_of_groupOk {c : Collection} (hc : ∀ d ∈ c.docs, d.GroupOk) :
    ∃ gs, listGroups .healthy c = .ok gs ∧
      ∀ g, g ∈ gs ↔ g ≠ "" ∧ ∃ d ∈ c.docs, d.get groupValuePath = some (.scalar (.str g)) := by
  have hvs := mem_distinct_groups hc
  obtain ⟨gs, hgs, heq⟩ := mapM_eq_ok_of_inverse (f := asGroupName)
    (g := fun s => DistinctValue.scalar (.str s)) (fun _ => rfl) fun v hv =>
    let ⟨g, hg, _⟩ := (hvs v).mp hv
    ⟨g, hg⟩
  refine ⟨gs, by simpa only [listGroups, distinct, Backend.healthy, Query.check] using hgs, fun g => ?_⟩
  rw [← show (DistinctValue.scalar (.str g) ∈ gs.map fun s => .scalar (.str s)) ↔ g ∈ gs by simp,
    ← heq, hvs]
  simp

/-- `GetDevicesByGroup` reports `ErrGroupNotFound` when no device holds the group. -/
theorem getDevicesByGroup_not_found {c : Collection} {g : String} (h : ∀ d ∈ c.docs, d.InGroup g = false)
    (skip limit : Int) : getDevicesByGroup .healthy c g skip limit = .error (.error .groupNotFound) := by
  have hnone : c.docs.find? (fun d => Query.matches d
      (.eq dbDevAttributesGroupValue (.leaf (.scalar (.str g))))) = none :=
    List.find?_eq_none.mpr fun d hd => by
      simpa [Query.matches, fieldPath_dbDevAttributesGroupValue, Doc.InGroup] using h d hd
  simp only [getDevicesByGroup, decodeOne, findOne, Backend.healthy_fails, Query.check, hnone]

/-- **`GetDevicesByGroup` of a group some device holds** is the listing of the
group's query. -/
theorem getDevicesByGroup_of_found {c : Collection} {g : String} {skip : Int} (limit : Int) (hskip : 0 ≤ skip)
    (h : ∃ d ∈ c.docs, d.InGroup g = true) :
    getDevicesByGroup .healthy c g skip limit =
      .ok ((paginate skip limit (arrange (groupListQuery g skip limit)
        (c.docs.filter (groupListQuery g skip limit).Selects))).map Doc.id,
        (c.docs.filter (groupListQuery g skip limit).Selects).length) := by
  obtain ⟨d, hd⟩ : ∃ d, c.docs.find? (fun d => Query.matches d
      (.eq dbDevAttributesGroupValue (.leaf (.scalar (.str g))))) = some d := by
    rcases hf : c.docs.find? (fun d => Query.matches d
        (.eq dbDevAttributesGroupValue (.leaf (.scalar (.str g))))) with _ | d
    · obtain ⟨d, hmem, hin⟩ := h
      have hno := List.find?_eq_none.mp hf d hmem
      simp only [Query.matches, fieldPath_dbDevAttributesGroupValue] at hno
      exact absurd hin hno
    · exact ⟨d, rfl⟩
  simp only [getDevicesByGroup, decodeOne, findOne, Backend.healthy_fails, Query.check, hd,
    getDevices_healthy (q := groupListQuery g skip limit) hskip (fun _ h => absurd h (List.not_mem_nil _))]
  rfl

/-- `GetDevicesByGroup` finds a group some device holds. -/
theorem getDevicesByGroup_found {c : Collection} {g : String} {skip : Int} (limit : Int) (hskip : 0 ≤ skip)
    (h : ∃ d ∈ c.docs, d.InGroup g = true) :
    getDevicesByGroup .healthy c g skip limit ≠ .error (.error .groupNotFound) := by
  rw [getDevicesByGroup_of_found limit hskip h]
  exact fun h => nomatch h

/-- **The two group listings agree**: in every state valid calls reach, on a store
that does not fail, `ListGroups` lists a name exactly when `GetDevicesByGroup`
finds it, for any page from a non-negative skip on. -/
theorem listGroups_iff_getDevicesByGroup {c : Collection} (hc : Reachable Op.Valid c) :
    ∃ gs, listGroups .healthy c = .ok gs ∧ ∀ (g : String) {skip : Int} (limit : Int), 0 ≤ skip →
      (g ∈ gs ↔ getDevicesByGroup .healthy c g skip limit ≠ .error (.error .groupNotFound)) := by
  have hinv := groupOk_reachable hc
  obtain ⟨gs, hgs, hmem⟩ := listGroups_of_groupOk hinv
  have hin : ∀ g, (∃ d ∈ c.docs, d.InGroup g = true) ↔
      ∃ d ∈ c.docs, d.get groupValuePath = some (.scalar (.str g)) :=
    fun g => exists_congr fun d => and_congr_right fun hd => inGroup_iff (hinv d hd) g
  refine ⟨gs, hgs, fun g skip limit hskip => ?_⟩
  rw [hmem]
  by_cases hg : g = ""
  · subst hg
    have hnone : ∀ d ∈ c.docs, d.InGroup "" = false := fun d hd => by
      by_contra hd'
      have hin' := Bool.of_not_eq_false hd'
      obtain ⟨g', hg', hv⟩ := hinv d hd (has_of_inGroup hin')
      have hempty : d.get groupValuePath = some (.scalar (.str "")) := (inGroup_iff (hinv d hd) "").mp hin'
      rw [hempty] at hv
      simp only [Option.some.injEq, Leaf.scalar.injEq, Scalar.str.injEq] at hv
      exact hg' hv.symm
    simp only [ne_eq, not_true_eq_false, false_and, getDevicesByGroup_not_found hnone, not_true]
  · rw [← hin]
    refine ⟨fun ⟨_, hex⟩ => getDevicesByGroup_found limit hskip hex, fun hne => ⟨hg, ?_⟩⟩
    by_contra hno
    push_neg at hno
    exact hne (getDevicesByGroup_not_found (fun d hd => Bool.eq_false_iff.mpr (hno d hd)) skip limit)

/-- The device `a`, added to the group `g`. -/
theorem listGroups_iff_getDevicesByGroup_a :
    Reachable Op.Valid ((Op.addDevice ⟨"a", [], "g"⟩).step .healthy 0 Collection.empty) ∧
    ∃ gs, listGroups .healthy ((Op.addDevice ⟨"a", [], "g"⟩).step .healthy 0 Collection.empty) = .ok gs ∧
      ∀ (g : String) {skip : Int} (limit : Int), 0 ≤ skip →
        (g ∈ gs ↔ getDevicesByGroup .healthy ((Op.addDevice ⟨"a", [], "g"⟩).step .healthy 0
          Collection.empty) g skip limit ≠ .error (.error .groupNotFound)) :=
  have hr : Reachable Op.Valid ((Op.addDevice ⟨"a", [], "g"⟩).step .healthy 0 Collection.empty) :=
    .single ⟨.healthy, 0, _, by decide, rfl⟩
  ⟨hr, listGroups_iff_getDevicesByGroup hr⟩

/-! ### The group reads of the inventory -/

/-- The group the inventory records for a device: the value of its group record when
it is a string, and empty otherwise. -/
def AttrMap.group (M : AttrMap) : String :=
  match (M (attrScopeSystem, attrNameGroup)).value with
  | some (.scalar (.str g)) => g
  | _ => ""

/-- **`GetDeviceGroup` on the inventory.** -/
def inventoryGroup (S : Inventory) (id : DeviceID) : Except Failure String :=
  if id = nilDeviceID then .error (.error .devNotFound)
  else
    match S id with
    | some M => .ok M.group
    | none => .error (.error .devNotFound)

theorem AttrMap.Agree.group {M M' : AttrMap} (h : AttrMap.Agree M M') : M.group = M'.group := by
  simp only [AttrMap.group, h _ _ (by decide : KeyConvention attrScopeSystem attrNameGroup)]

theorem Doc.get_group {d : Doc} {g : String} (hg : g ≠ "") (h : d.group = g) :
    d.get groupValuePath = some (.scalar (.str g)) := by
  unfold Doc.group at h
  split at h
  · rename_i g' hv; rw [hv, h]
  · exact absurd h.symm hg

section Agree

/-! The group reads of a collection whose every document agrees with the inventory's
record of its id. -/

variable {c : Collection} {S : Inventory}
  (hcS : ∀ id, Option.Rel (fun d M => AttrMap.Agree d.attrMap M) (c.find? id) (S id))
include hcS

theorem getDeviceGroup_of_agree (id : DeviceID) : getDeviceGroup .healthy c id = inventoryGroup S id := by
  by_cases hid : id = nilDeviceID
  · simp only [getDeviceGroup, getDevice, inventoryGroup, if_pos hid]
  · have hr := hcS id
    simp only [getDeviceGroup, getDevice_healthy _ hid, inventoryGroup, if_neg hid]
    generalize c.find? id = o at hr
    generalize S id = T at hr
    cases hr with
    | none => rfl
    | some hdM => exact congrArg Except.ok hdM.group

theorem listGroups_of_agree (hc : ∀ d ∈ c.docs, d.GroupOk) :
    ∃ gs, listGroups .healthy c = .ok gs ∧
      ∀ g, g ∈ gs ↔ g ≠ "" ∧ ∃ id M, S id = some M ∧ M.group = g := by
  obtain ⟨gs, hgs, hmem⟩ := listGroups_of_groupOk hc
  refine ⟨gs, hgs, fun g => (hmem g).trans (and_congr_right fun hg => ⟨?_, ?_⟩)⟩
  · rintro ⟨d, hd, hv⟩
    obtain ⟨M, hM, hdM⟩ := rel_some_left ((Collection.find?_eq_some_iff.mpr ⟨hd, rfl⟩) ▸ hcS d.id)
    exact ⟨d.id, M, hM, hdM.group.symm.trans (show d.group = g by simp only [Doc.group, hv])⟩
  · rintro ⟨id, M, hM, rfl⟩
    obtain ⟨d, hd, hdM⟩ := rel_some_right (hM ▸ hcS id)
    exact ⟨d, (Collection.find?_eq_some_iff.mp hd).1, Doc.get_group hg hdM.group⟩

end Agree

/-- **The store's group reads are the inventory's**: on a store that does not
fail, after every run of calls with valid, ordinary arguments from the empty
store, `GetDeviceGroup` reports for every id what the inventory's run records,
and `ListGroups` lists exactly the non-empty groups it records. -/
theorem group_reads_refine (calls : List (Op × Int)) (h : ∀ call ∈ calls, call.1.Valid ∧ call.1.Ordinary) :
    (∀ id, getDeviceGroup .healthy (Op.run .healthy calls Collection.empty) id =
      inventoryGroup (Op.runSpec calls fun _ => none) id) ∧
    ∃ gs, listGroups .healthy (Op.run .healthy calls Collection.empty) = .ok gs ∧
      ∀ g, g ∈ gs ↔ g ≠ "" ∧ ∃ id M, Op.runSpec calls (fun _ => none) id = some M ∧ M.group = g := by
  have hcS := fun id => rel_imp (run_find? h id) fun _ _ _ hdM => hdM.2.2
  exact ⟨getDeviceGroup_of_agree hcS,
    listGroups_of_agree hcS (groupOk_reachable (reachable_run .healthy calls .refl fun call hc => (h call hc).1))⟩

/-- The device `a`, added to `g` and moved to `h`. -/
theorem group_reads_refine_a :
    (∀ call ∈ [(Op.addDevice ⟨"a", [], "g"⟩, (0 : Int)), (.updateDeviceGroup "a" "h", 1)],
        call.1.Valid ∧ call.1.Ordinary) ∧
    (∀ id, getDeviceGroup .healthy
        (Op.run .healthy [(Op.addDevice ⟨"a", [], "g"⟩, 0), (.updateDeviceGroup "a" "h", 1)] Collection.empty) id =
      inventoryGroup (Op.runSpec [(Op.addDevice ⟨"a", [], "g"⟩, 0), (.updateDeviceGroup "a" "h", 1)]
        fun _ => none) id) ∧
    ∃ gs, listGroups .healthy
        (Op.run .healthy [(Op.addDevice ⟨"a", [], "g"⟩, 0), (.updateDeviceGroup "a" "h", 1)] Collection.empty) =
        .ok gs ∧
      ∀ g, g ∈ gs ↔ g ≠ "" ∧ ∃ id M, Op.runSpec [(Op.addDevice ⟨"a", [], "g"⟩, 0),
        (.updateDeviceGroup "a" "h", 1)] (fun _ => none) id = some M ∧ M.group = g :=
  ⟨by decide, group_reads_refine _ (by decide)⟩

/-! ### The nil id -/

/-- **A device stored under the nil id is listed, but never read**: on a store that
does not fail, `UpsertAttributes` with the nil id and ordinary attributes succeeds
and stores a device under it, which `GetDevices` lists; yet `GetDevice` reports no
device there and `GetDeviceGroup` reports it missing, on any server. -/
theorem nil_device_unreadable (c : Collection) (now : Int) {attrs : List DeviceAttribute}
    (h : ∀ a ∈ attrs, a.Ordinary) (net : Backend) :
    (upsertAttributes .healthy now c nilDeviceID attrs).1 = .ok () ∧
      (∃ page n, getDevices .healthy (upsertAttributes .healthy now c nilDeviceID attrs).2
        ⟨0, 0, [], none, none, ""⟩ = .ok (page, n) ∧ ∃ d ∈ page, d.id = nilDeviceID) ∧
      getDevice net (upsertAttributes .healthy now c nilDeviceID attrs).2 nilDeviceID = .ok none ∧
      getDeviceGroup net (upsertAttributes .healthy now c nilDeviceID attrs).2 nilDeviceID =
        .error (.error .devNotFound) := by
  obtain ⟨hok, -, d, hd, -⟩ := upsertAttributes_ordinary c nilDeviceID now h
  refine ⟨hok, ⟨_, _, getDevices_healthy le_rfl (fun _ h => absurd h (List.not_mem_nil _)), d, ?_,
    (Collection.find?_eq_some_iff.mp hd).2⟩, by simp [getDevice], by simp [getDeviceGroup, getDevice]⟩
  simpa [paginate, arrange, ListQuery.Selects] using (Collection.find?_eq_some_iff.mp hd).1

/-- A `mac` attribute upserted under the nil id. -/
theorem nil_device_unreadable_mac :
    (∀ a ∈ [(⟨"mac", none, some (.scalar (.str "00:11")), ""⟩ : DeviceAttribute)], a.Ordinary) ∧
    (upsertAttributes .healthy 0 Collection.empty nilDeviceID
        [⟨"mac", none, some (.scalar (.str "00:11")), ""⟩]).1 = .ok () ∧
      (∃ page n, getDevices .healthy (upsertAttributes .healthy 0 Collection.empty nilDeviceID
          [⟨"mac", none, some (.scalar (.str "00:11")), ""⟩]).2 ⟨0, 0, [], none, none, ""⟩ = .ok (page, n) ∧
        ∃ d ∈ page, d.id = nilDeviceID) ∧
      getDevice .healthy (upsertAttributes .healthy 0 Collection.empty nilDeviceID
        [⟨"mac", none, some (.scalar (.str "00:11")), ""⟩]).2 nilDeviceID = .ok none ∧
      getDeviceGroup .healthy (upsertAttributes .healthy 0 Collection.empty nilDeviceID
        [⟨"mac", none, some (.scalar (.str "00:11")), ""⟩]).2 nilDeviceID = .error (.error .devNotFound) :=
  ⟨by decide, nil_device_unreadable _ _ (by decide) _⟩

end DeviceInventory
