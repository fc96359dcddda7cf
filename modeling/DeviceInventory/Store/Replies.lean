import DeviceInventory.Store.Reads

/-!
# What the writes report

The group writes and the delete answer their caller with what they did:
`UpdateDeviceGroup`, `UnsetDeviceGroup` and `DeleteDevice` succeed when they
modified a device and return `ErrDevNotFound` otherwise, and the bulk writes
return the numbers of devices they matched and modified.  The server counts
documents; this module proves that, on every state valid calls reach, what it
counts against what the abstract inventory's own call changes:

* a group record is cleared exactly when the inventory's compare-and-clear clears
  it (`inGroup_iff`, `unassignGroup_ne_iff`), and a document removed exactly when
  the inventory removes the device;
* a group record is written anew whenever the inventory's record of the group is
  not already the one written (`Doc.Records.holds_group_iff`,
  `assignGroup_ne_iff`), but also when it is, and is stored in another field
  order: the server compares bytes, and a record `UpsertAttributes` built field by
  field is not the struct the group setters write;
* a document of each listed id is counted once, since the store keeps one
  document per id (`countP_listed`).

## Main definitions

* `Reports` — a reply that reports whether a call changed the device.
* `ReportsEveryChange` — a reply that never hides a change, though it may report
  one that did not happen.

## Main statements

* `single_writes_report_changes` — after every run of valid, ordinary calls, the
  unset and the delete report exactly whether the inventory's call changes the
  device, and the group assignment succeeds whenever it does.
* `bulk_writes_count_changes` — the bulk group writes count exactly the listed
  devices the inventory holds; the unset counts those its call changes, the
  assignment at least those.
-/

namespace DeviceInventory

/-! ### What the inventory's calls change -/

/-- **A reply that reports a change**: success when the call changed the device,
`ErrDevNotFound` when it did not. -/
def Reports (reply : Except Failure Unit) (changed : Prop) : Prop :=
  (reply = .ok () ∧ changed) ∨ (reply = .error (.error .devNotFound) ∧ ¬changed)

/-- **A reply that never hides a change**: success, or `ErrDevNotFound` when the
call did not change the device. -/
def ReportsEveryChange (reply : Except Failure Unit) (changed : Prop) : Prop :=
  reply = .ok () ∨ (reply = .error (.error .devNotFound) ∧ ¬changed)

/-- A reply decided by a test that holds exactly when the call changed the device. -/
theorem reports_of_test {b : Bool} {changed : Prop} (hb : b = true ↔ changed) :
    Reports (if b then .ok () else .error (.error .devNotFound)) changed := by
  cases b
  · exact .inr ⟨rfl, fun h => absurd (hb.mpr h) Bool.false_ne_true⟩
  · exact .inl ⟨rfl, hb.mp rfl⟩

/-- A reply decided by a test that holds whenever the call changed the device. -/
theorem reportsEveryChange_of_test {b : Bool} {changed : Prop} (hb : changed → b = true) :
    ReportsEveryChange (if b then .ok () else .error (.error .devNotFound)) changed := by
  cases b
  · exact .inr ⟨rfl, fun h => absurd (hb h) Bool.false_ne_true⟩
  · exact .inl rfl

theorem map_ne_self_iff {f : AttrMap → AttrMap} {o : Option AttrMap} :
    o.map f ≠ o ↔ ∃ M, o = some M ∧ f M ≠ M := by
  cases o <;> simp

/-- Assigning a group changes a map exactly when its group record is not already
the one assigned. -/
theorem assignGroup_ne_iff (g : String) (M : AttrMap) :
    assignGroup g M ≠ M ↔ M (attrScopeSystem, attrNameGroup) ≠ Entry.empty.merge (groupRecord g) := by
  rw [assignGroup, Function.update_ne_self_iff, ne_comm]

/-- Compare-and-clear changes a map exactly when its group's value is the group. -/
theorem unassignGroup_ne_iff (g : String) (M : AttrMap) :
    unassignGroup g M ≠ M ↔ (M (attrScopeSystem, attrNameGroup)).value = some (.scalar (.str g)) := by
  unfold unassignGroup
  split_ifs with h
  · refine iff_of_true (Function.update_ne_self_iff.mpr fun he => ?_) h
    rw [← he] at h
    cases h
  · exact iff_of_false (not_not.mpr rfl) h

/-! ### The group record of a document of records -/

/-- **A document of records holds a group record exactly when its map has that
record**: the record is all a document of records has at or below `groupPath`. -/
theorem Doc.Records.holds_group_iff {d : Doc} (hd : d.Records) (g : String) :
    d.holds groupPath (groupRecord g).encode = true ↔
      d.attrMap (attrScopeSystem, attrNameGroup) = Entry.empty.merge (groupRecord g) := by
  rw [Doc.holds_iff]
  constructor
  · intro hr
    have hr := fun sub => hr [sub]
    simp only [groupPath, List.cons_append, List.nil_append] at hr
    simp only [Doc.attrMap, Doc.entry, hr]
    rfl
  · intro he r
    by_cases hr : ∃ sub ∈ attrSubFields, r = [sub]
    · obtain ⟨sub, hsub, rfl⟩ := hr
      simp only [attrSubFields, List.mem_cons, List.mem_singleton, List.not_mem_nil, or_false] at hsub
      rcases hsub with rfl | rfl | rfl | rfl
      exacts [congrArg Entry.scope he, congrArg Entry.name he, congrArg Entry.value he,
        congrArg Entry.description he]
    · push_neg at hr
      -- neither the document nor the record has a leaf at `r` when `r` is not a field
      have hget : d.get (groupPath ++ r) = none := by
        cases hw : d.get (groupPath ++ r) with
        | none => rfl
        | some w =>
            obtain ⟨s, n, -, sub, hsub, hpath⟩ := hd _ (mem_of_leafAt hw)
            obtain ⟨-, hsub'⟩ : _ ∧ r = [sub] := by simpa [groupPath] using hpath
            exact absurd hsub' (hr sub hsub)
      rw [hget, eq_comm]
      exact leafAt_eq_none fun x hx hxr =>
        let ⟨sub, hsub, hx1⟩ := mem_encode_sub hx
        hr sub hsub (hxr ▸ hx1)

/-! ### One device, against the inventory's record of it -/

/-- The relation every state valid, ordinary calls reach keeps between the store's
document of a device and the inventory's map of it. -/
def Mirrors (d : Doc) (M : AttrMap) : Prop := d.Records ∧ d.GroupOk ∧ AttrMap.Agree d.attrMap M

section Mirrors

variable {o : Option Doc} {T : Option AttrMap} (hrel : Option.Rel Mirrors o T)
include hrel

theorem Mirrors.isSome_iff : o.isSome = true ↔ T.isSome = true := by
  cases hrel <;> rfl

/-- **A group write modifies the document whenever it changes the map**: a record
stored as the one written reads as it, and the map has it already. -/
theorem Mirrors.modifies_of_changes (g : String) (hch : T.map (assignGroup g) ≠ T) :
    o.any (fun d => !decide (d.valueAt groupPath = (groupRecord g).encode)) = true := by
  rw [map_ne_self_iff] at hch
  obtain ⟨M, rfl, hM⟩ := hch
  obtain ⟨d, rfl, hdM⟩ := rel_some_right hrel
  rw [Option.any_some, Bool.not_eq_true', decide_eq_false_iff_not]
  intro hv
  refine (assignGroup_ne_iff g M).mp hM ?_
  rw [← hdM.2.2 _ _ (by decide : KeyConvention attrScopeSystem attrNameGroup), ← hdM.1.holds_group_iff]
  exact Doc.holds_iff.mpr (Doc.get_append_of_valueAt hv)

/-- A group unset clears the document exactly when compare-and-clear changes the map. -/
theorem Mirrors.clears_iff (g : String) : o.any (·.InGroup g) = true ↔ T.map (unassignGroup g) ≠ T := by
  rw [map_ne_self_iff]
  cases hrel with
  | none => simp
  | @some d M hdM =>
      rw [Option.any_some, inGroup_iff hdM.2.1,
        hdM.2.2 _ _ (by decide : KeyConvention attrScopeSystem attrNameGroup), ← unassignGroup_ne_iff]
      exact ⟨fun h => ⟨M, rfl, h⟩, fun ⟨_, hM, h⟩ => Option.some.inj hM ▸ h⟩

end Mirrors

theorem run_mirrors {calls : List (Op × Int)} (h : ∀ call ∈ calls, call.1.Valid ∧ call.1.Ordinary)
    (id : DeviceID) :
    Option.Rel Mirrors ((Op.run .healthy calls Collection.empty).find? id) (Op.runSpec calls (fun _ => none) id) :=
  have hok := groupOk_reachable (reachable_run .healthy calls .refl fun call hc => (h call hc).1)
  rel_imp (run_find? h id) fun d _ hd hdM => ⟨hdM.2.1, hok d (Collection.find?_eq_some_iff.mp hd).1, hdM.2.2⟩

/-! ### The replies of the single-device writes -/

/-- `UpdateDeviceGroup` succeeds exactly when it modifies the device. -/
theorem updateDeviceGroup_reply (c : Collection) (id : DeviceID) (g : String) :
    (updateDeviceGroup .healthy c id g).1 =
      if (c.find? id).any (fun d => !decide (d.valueAt groupPath = (groupRecord g).encode)) then .ok ()
      else .error (.error .devNotFound) := by
  cases hd : c.find? id with
  | none => rw [updateDeviceGroup_absent g hd]; rfl
  | some d =>
      obtain ⟨-, -, hreply, -⟩ := updateDeviceGroup_present g hd
      rw [hreply, Option.any_some]
      by_cases hv : d.valueAt groupPath = (groupRecord g).encode <;> simp [hv]

/-- **The single-device writes report what the inventory's call does**: on a store
that does not fail, after every run of valid, ordinary calls from the empty
collection, `UnsetDeviceGroup` and `DeleteDevice` on any device succeed when the
inventory's call changes that device's map, or removes the device, and return
`ErrDevNotFound` when it leaves the device as it was; `UpdateDeviceGroup` succeeds
whenever the inventory's call changes the device, and returns `ErrDevNotFound`
only when it does not. -/
theorem single_writes_report_changes (calls : List (Op × Int)) (h : ∀ call ∈ calls, call.1.Valid ∧ call.1.Ordinary)
    (now : Int) (id : DeviceID) (g : String) :
    ReportsEveryChange (updateDeviceGroup .healthy (Op.run .healthy calls Collection.empty) id g).1
        (Op.spec now (.updateDeviceGroup id g) (Op.runSpec calls fun _ => none) id ≠
          Op.runSpec calls (fun _ => none) id) ∧
      Reports (unsetDeviceGroup .healthy (Op.run .healthy calls Collection.empty) id g).1
        (Op.spec now (.unsetDeviceGroup id g) (Op.runSpec calls fun _ => none) id ≠
          Op.runSpec calls (fun _ => none) id) ∧
      Reports (deleteDevice .healthy (Op.run .healthy calls Collection.empty) id).1
        (Op.spec now (.deleteDevice id) (Op.runSpec calls fun _ => none) id ≠
          Op.runSpec calls (fun _ => none) id) := by
  have hrel := run_mirrors h id
  simp only [Op.spec, Function.update_same]
  refine ⟨?_, ?_, ?_⟩
  · rw [updateDeviceGroup_reply]
    exact reportsEveryChange_of_test (Mirrors.modifies_of_changes hrel g)
  · rw [(unsetDeviceGroup_healthy _ id g).1]
    exact reports_of_test (Mirrors.clears_iff hrel g)
  · rw [(deleteDevice_healthy _ id).1]
    exact reports_of_test ((Mirrors.isSome_iff hrel).trans (by rw [ne_comm, Option.ne_none_iff_isSome]))

/-- The device `a` added to the group `g`: the assignment of `g` changes nothing, and
succeeds, since it rewrites the record `AddDevice` stored field by field; the unset of
`g` and the delete change the device. -/
theorem single_writes_report_changes_a :
    (∀ call ∈ [(Op.addDevice ⟨"a", [], "g"⟩, (0 : Int))], call.1.Valid ∧ call.1.Ordinary) ∧
    ReportsEveryChange (updateDeviceGroup .healthy (Op.run .healthy [(Op.addDevice ⟨"a", [], "g"⟩, (0 : Int))]
        Collection.empty) "a" "g").1
      (Op.spec 1 (.updateDeviceGroup "a" "g") (Op.runSpec [(Op.addDevice ⟨"a", [], "g"⟩, (0 : Int))] fun _ => none)
        "a" ≠ Op.runSpec [(Op.addDevice ⟨"a", [], "g"⟩, (0 : Int))] (fun _ => none) "a") ∧
    Reports (unsetDeviceGroup .healthy (Op.run .healthy [(Op.addDevice ⟨"a", [], "g"⟩, (0 : Int))]
        Collection.empty) "a" "g").1
      (Op.spec 1 (.unsetDeviceGroup "a" "g") (Op.runSpec [(Op.addDevice ⟨"a", [], "g"⟩, (0 : Int))] fun _ => none)
        "a" ≠ Op.runSpec [(Op.addDevice ⟨"a", [], "g"⟩, (0 : Int))] (fun _ => none) "a") ∧
    Reports (deleteDevice .healthy (Op.run .healthy [(Op.addDevice ⟨"a", [], "g"⟩, (0 : Int))]
        Collection.empty) "a").1
      (Op.spec 1 (.deleteDevice "a") (Op.runSpec [(Op.addDevice ⟨"a", [], "g"⟩, (0 : Int))] fun _ => none)
        "a" ≠ Op.runSpec [(Op.addDevice ⟨"a", [], "g"⟩, (0 : Int))] (fun _ => none) "a") :=
  ⟨by decide, single_writes_report_changes _ (by decide) 1 "a" "g"⟩

/-! ### The counts of the bulk writes -/

/-- **Among documents of distinct ids, the listed ones that pass a test are counted
once each**: their number is that of a list of distinct ids, those of `ids` whose
document passes. -/
theorem countP_listed (c : Collection) (ids : List DeviceID) (P : Doc → Bool) :
    ∃ l : List DeviceID, l.Nodup ∧ (∀ id, id ∈ l ↔ id ∈ ids ∧ (c.find? id).any P = true) ∧
      c.docs.countP (fun d => ids.contains d.id && P d) = l.length := by
  refine ⟨(c.docs.filter fun d => ids.contains d.id && P d).map Doc.id,
    ((List.filter_sublist _).map Doc.id).nodup c.nodup, fun id => ?_, by
      rw [List.countP_eq_length_filter, List.length_map]⟩
  simp only [List.mem_map, List.mem_filter, Bool.and_eq_true, List.elem_eq_mem, decide_eq_true_eq]
  constructor
  · rintro ⟨d, ⟨hd, hid, hP⟩, rfl⟩
    rw [Collection.find?_eq_some_iff.mpr ⟨hd, rfl⟩]
    exact ⟨hid, hP⟩
  · rintro ⟨hid, hP⟩
    cases hd : c.find? id with
    | none => rw [hd] at hP; cases hP
    | some d =>
        rw [hd] at hP
        obtain ⟨hmem, rfl⟩ := Collection.find?_eq_some_iff.mp hd
        exact ⟨d, ⟨hmem, hid, hP⟩, rfl⟩

/-- **The bulk writes count what the inventory's call changes**: on a store that does
not fail, after every run of valid, ordinary calls from the empty collection,
`UpdateDevicesGroup(ids, g)` returns as its matched count the number of listed
devices the inventory holds, and as its modified count the number of some of them,
among which every device whose map the inventory's call changes, and
`UnsetDevicesGroup(ids, g)` returns the number of devices whose map the inventory's
call changes; each is the number of distinct ids. -/
theorem bulk_writes_count_changes (calls : List (Op × Int)) (h : ∀ call ∈ calls, call.1.Valid ∧ call.1.Ordinary)
    (now : Int) (ids : List DeviceID) (g : String) :
    (∃ matched modified : List DeviceID, matched.Nodup ∧ modified.Nodup ∧
      (updateDevicesGroup .healthy (Op.run .healthy calls Collection.empty) ids g).1 =
        .ok (matched.length, modified.length) ∧
      (∀ id, id ∈ matched ↔ id ∈ ids ∧ (Op.runSpec calls (fun _ => none) id).isSome = true) ∧
      (∀ id ∈ modified, id ∈ matched) ∧
      ∀ id, Op.spec now (.updateDevicesGroup ids g) (Op.runSpec calls fun _ => none) id ≠
          Op.runSpec calls (fun _ => none) id → id ∈ modified) ∧
    ∃ cleared : List DeviceID, cleared.Nodup ∧
      (unsetDevicesGroup .healthy (Op.run .healthy calls Collection.empty) ids g).1 = .ok cleared.length ∧
      ∀ id, id ∈ cleared ↔
        Op.spec now (.unsetDevicesGroup ids g) (Op.runSpec calls fun _ => none) id ≠
          Op.runSpec calls (fun _ => none) id := by
  set c := Op.run .healthy calls Collection.empty
  -- a listed device is changed by the inventory's call exactly when the call changes its map
  have hlisted : ∀ (f : AttrMap → AttrMap) (id : DeviceID),
      (if id ∈ ids then (Op.runSpec calls (fun _ => none) id).map f else Op.runSpec calls (fun _ => none) id) ≠
        Op.runSpec calls (fun _ => none) id ↔
        id ∈ ids ∧ (Op.runSpec calls (fun _ => none) id).map f ≠ Op.runSpec calls (fun _ => none) id :=
    fun f id => by split_ifs with hid <;> simp [hid]
  obtain ⟨matched, hm, hmem, hcount⟩ := countP_listed c ids fun _ => true
  obtain ⟨modified, hd, hdmem, hdcount⟩ :=
    countP_listed c ids fun d => !decide (d.valueAt groupPath = (groupRecord g).encode)
  obtain ⟨cleared, hc, hcmem, hccount⟩ := countP_listed c ids (·.InGroup g)
  simp only [Bool.and_true] at hcount
  have hmatched : ∀ id, id ∈ matched ↔ id ∈ ids ∧ (Op.runSpec calls (fun _ => none) id).isSome = true :=
    fun id => by
      rw [hmem, ← Mirrors.isSome_iff (run_mirrors h id)]
      cases c.find? id <;> rfl
  refine ⟨⟨matched, modified, hm, hd, ?_, hmatched, fun id hid => ?_, fun id hch => ?_⟩, cleared, hc, ?_,
    fun id => ?_⟩
  · rw [(updateDevicesGroup_healthy c ids g).1, hcount, hdcount]
  · obtain ⟨hid, hany⟩ := (hdmem id).mp hid
    rw [hmem]
    exact ⟨hid, by cases hf : c.find? id <;> simp_all⟩
  · simp only [Op.spec] at hch
    obtain ⟨hid, hch⟩ := (hlisted _ id).mp hch
    exact (hdmem id).mpr ⟨hid, Mirrors.modifies_of_changes (run_mirrors h id) g hch⟩
  · rw [(unsetDevicesGroup_healthy c ids g).1, hccount]
  · simp only [Op.spec]
    rw [hcmem, hlisted, Mirrors.clears_iff (run_mirrors h id) g]

/-- The devices `a` and `b` added to `g`, and `b` moved to `h`: setting `g` on both,
and on `c`, which does not exist, matches two and modifies both, `b`, whose map it
changes, and `a`, whose record `AddDevice` stored field by field. -/
theorem bulk_writes_count_changes_ab :
    (∀ call ∈ [(Op.addDevice ⟨"a", [], "g"⟩, (0 : Int)), (.addDevice ⟨"b", [], "g"⟩, 1),
        (.updateDeviceGroup "b" "h", 2)], call.1.Valid ∧ call.1.Ordinary) ∧
    (∃ matched modified : List DeviceID, matched.Nodup ∧ modified.Nodup ∧
      (updateDevicesGroup .healthy (Op.run .healthy [(Op.addDevice ⟨"a", [], "g"⟩, (0 : Int)),
        (.addDevice ⟨"b", [], "g"⟩, 1), (.updateDeviceGroup "b" "h", 2)] Collection.empty) ["a", "b", "c"] "g").1 =
        .ok (matched.length, modified.length) ∧
      (∀ id, id ∈ matched ↔ id ∈ ["a", "b", "c"] ∧ (Op.runSpec [(Op.addDevice ⟨"a", [], "g"⟩, (0 : Int)),
        (.addDevice ⟨"b", [], "g"⟩, 1), (.updateDeviceGroup "b" "h", 2)] (fun _ => none) id).isSome = true) ∧
      (∀ id ∈ modified, id ∈ matched) ∧
      ∀ id, Op.spec 3 (.updateDevicesGroup ["a", "b", "c"] "g") (Op.runSpec [(Op.addDevice ⟨"a", [], "g"⟩, (0 : Int)),
          (.addDevice ⟨"b", [], "g"⟩, 1), (.updateDeviceGroup "b" "h", 2)] fun _ => none) id ≠
          Op.runSpec [(Op.addDevice ⟨"a", [], "g"⟩, (0 : Int)), (.addDevice ⟨"b", [], "g"⟩, 1),
            (.updateDeviceGroup "b" "h", 2)] (fun _ => none) id → id ∈ modified) ∧
    ∃ cleared : List DeviceID, cleared.Nodup ∧
      (unsetDevicesGroup .healthy (Op.run .healthy [(Op.addDevice ⟨"a", [], "g"⟩, (0 : Int)),
        (.addDevice ⟨"b", [], "g"⟩, 1), (.updateDeviceGroup "b" "h", 2)] Collection.empty) ["a", "b", "c"] "g").1 =
        .ok cleared.length ∧
      ∀ id, id ∈ cleared ↔
        Op.spec 3 (.unsetDevicesGroup ["a", "b", "c"] "g") (Op.runSpec [(Op.addDevice ⟨"a", [], "g"⟩, (0 : Int)),
          (.addDevice ⟨"b", [], "g"⟩, 1), (.updateDeviceGroup "b" "h", 2)] fun _ => none) id ≠
          Op.runSpec [(Op.addDevice ⟨"a", [], "g"⟩, (0 : Int)), (.addDevice ⟨"b", [], "g"⟩, 1),
            (.updateDeviceGroup "b" "h", 2)] (fun _ => none) id :=
  ⟨by decide, bulk_writes_count_changes _ (by decide) 3 ["a", "b", "c"] "g"⟩

end DeviceInventory
