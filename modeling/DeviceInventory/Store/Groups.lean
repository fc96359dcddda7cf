import DeviceInventory.Mongo.Frame
import DeviceInventory.Store.Devices

/-!
# The group operations

`UpdateDeviceGroup` and `UpdateDevicesGroup` write the group record whole to
`attributes.system-group`; `UnsetDeviceGroup` and `UnsetDevicesGroup` remove it
from the devices whose group value equals an expected name; `ListGroups` reads
the distinct group values back; `DeleteDevice` removes a device's document.

## Main definitions

* `setGroupUpdate`, `unsetGroupUpdate` — the two update documents.
* `updateDeviceGroup`, `updateDevicesGroup`, `unsetDeviceGroup`,
  `unsetDevicesGroup`, `listGroups`, `deleteDevice`.
* `Doc.holds`, `Doc.Replaced`, `Doc.Cleared` — the spec's words for a record that
  reads as a given one, and for a document with one record replaced or removed
  and nothing else changed.

## Main statements

* `setGroupUpdate_modifies` — a write of the group record modifies a device exactly
  when its stored record is not the one written, field for field and in order.
* `updateMany_unsetGroup` — the unset through a group filter, shared by the two
  unset operations: the documents it modifies, and the record removed from each.
* `updateDeviceGroup_present`, `unsetDeviceGroup_healthy`, `deleteDevice_healthy`
  — what the three single-device operations return and change.
* `updateDeviceGroup_twice_not_found` — the second of two equal assignments
  reports `ErrDevNotFound` for a device that exists.
* `updateDeviceGroup_rewrites_added_group` — the first assignment of the group a
  device was added with succeeds.
* `bulk_group_writes` — what the two bulk operations return and change.

## Design notes

Whether a write modified a document is the server's judgment, byte for byte
(`Update.modifies`): the group record the setters write has the fields of the
struct `model.DeviceAttribute` in its order, `name`, `value`, `scope`, while a record
`UpsertAttributes` creates field by field has them in the server's lexicographic
order, `name`, `scope`, `value`.  The two read alike and still differ.
-/

namespace DeviceInventory

/-! ### The update documents -/

/-- The record the two group setters write: scope `system`, name `DbDevGroup`, the
group as its value. -/
def groupRecord (group : String) : DeviceAttribute :=
  ⟨dbDevGroup, none, some (.scalar (.str group)), attrScopeSystem⟩

/-- `{$set: {attributes.system-group: record}}` -/
def setGroupUpdate (group : String) : Update :=
  ⟨[(dbDevAttributesGroup, (groupRecord group).encode)], [], []⟩

/-- `{$unset: {attributes.system-group: …}}`; the value given is ignored. -/
def unsetGroupUpdate : Update := ⟨[], [], [dbDevAttributesGroup]⟩

/-- `{attributes.system-group.value: group}` -/
def groupValueFilter (group : String) : Query :=
  .eq dbDevAttributesGroupValue (.leaf (.scalar (.str group)))

theorem setGroupUpdate_shaped (group : String) : (setGroupUpdate group).Shaped := by
  intro kv hkv
  rw [List.mem_singleton.mp hkv]
  simpa only [dbDevAttributesGroup, system_field] using writesInLayout_encode _ _

theorem unsetGroupUpdate_shaped : unsetGroupUpdate.Shaped :=
  fun _ h => absurd h (List.not_mem_nil _)

theorem setGroupUpdate_check (group : String) : (setGroupUpdate group).check = .ok () := rfl

@[simp] theorem matches_groupValueFilter (group : String) (d : Doc) :
    (groupValueFilter group).matches d = d.InGroup group := by
  simp [groupValueFilter, Query.matches, fieldPath_dbDevAttributesGroupValue, Doc.InGroup]

/-- A device of a group has a group record. -/
theorem has_of_inGroup {d : Doc} {g : String} (h : d.InGroup g = true) : d.has groupPath = true :=
  has_of_eqMatch h (List.prefix_append groupPath _)

/-! ### The spec's words for a record and a rewritten document -/

/-- **The record at `p` reads as `v`**: every field at or below `p` holds what `v`
holds at the same place below it. -/
def Doc.holds (d : Doc) (p : Path) (v : Subtree) : Bool :=
  (d.fields.all fun f => !decide (p <+: f.1) || decide (d.get f.1 = leafAt v (f.1.drop p.length))) &&
    v.all fun x => decide (d.get (p ++ x.1) = leafAt v x.1)

theorem Doc.holds_iff {d : Doc} {p : Path} {v : Subtree} :
    d.holds p v = true ↔ ∀ r, d.get (p ++ r) = leafAt v r := by
  simp only [Doc.holds, Bool.and_eq_true, List.all_eq_true, Bool.or_eq_true, Bool.not_eq_true',
    decide_eq_false_iff_not, decide_eq_true_eq]
  constructor
  · rintro ⟨hd, hv⟩ r
    by_cases hf : ∃ f ∈ d.fields, f.1 = p ++ r
    · obtain ⟨f, hf, hfr⟩ := hf
      have := (hd f hf).resolve_left (not_not.mpr (hfr ▸ List.prefix_append p r))
      rwa [hfr, List.drop_left] at this
    · by_cases hx : ∃ x ∈ v, x.1 = r
      · obtain ⟨x, hx, rfl⟩ := hx
        exact hv x hx
      · rw [Doc.get, leafAt_eq_none fun f hf' h => hf ⟨f, hf', h⟩,
          leafAt_eq_none fun x hx' h => hx ⟨x, hx', h⟩]
  · intro h
    refine ⟨fun f _ => ?_, fun x _ => h x.1⟩
    by_cases hp : p <+: f.1
    · obtain ⟨r, hr⟩ := hp
      right
      rw [← hr, List.drop_left, h]
    · exact .inl hp

/-- **`e` is `d` with the record at `p` replaced by `v`**: the same `_id`, the record
at `p` stored as `v`, field for field and in order, and every other field reading
as in `d`. -/
def Doc.Replaced (p : Path) (v : Subtree) (d e : Doc) : Prop :=
  e.id = d.id ∧ e.valueAt p = v ∧ ∀ q, ¬ p <+: q → e.get q = d.get q

/-- A replaced record reads as the record written. -/
theorem Doc.Replaced.get_append {p : Path} {v : Subtree} {d e : Doc} (h : Doc.Replaced p v d e) (r : Path) :
    e.get (p ++ r) = leafAt v r :=
  Doc.get_append_of_valueAt h.2.1 r

/-- **`e` is `d` without the record at `p`**: the same `_id`, nothing at or below
`p`, and every other field as in `d`. -/
def Doc.Cleared (p : Path) (d e : Doc) : Prop :=
  e.id = d.id ∧ e.has p = false ∧ ∀ q, ¬ p <+: q → e.get q = d.get q

/-! ### The updates on one document -/

section SetGroup

variable {group : String} {insert : Bool} {d e : Doc}

theorem setGroupUpdate_get (h : (setGroupUpdate group).apply insert d = .ok e) (r : Path) :
    e.get (groupPath ++ r) = leafAt (groupRecord group).encode r := by
  simpa only [fieldPath_dbDevAttributesGroup] using
    Update.apply_get_of_set h (List.mem_singleton_self _) r

theorem setGroupUpdate_get_of_outside (h : (setGroupUpdate group).apply insert d = .ok e) {q : Path}
    (hq : ¬ groupPath <+: q) : e.get q = d.get q :=
  Update.apply_get_of_outside h
    (fun kv hkv => by rw [List.mem_singleton.mp hkv, fieldPath_dbDevAttributesGroup]; exact hq)
    (fun _ _ hkv => absurd hkv (List.not_mem_nil _)) fun _ hk => absurd hk (List.not_mem_nil _)

/-- **The group record is written to every document of the store's layout.** -/
theorem setGroupUpdate_ok (group : String) (insert : Bool) {d : Doc} (hd : d.Layout) :
    ∃ e, (setGroupUpdate group).apply insert d = .ok e :=
  Update.apply_ok_of_layout insert (setGroupUpdate_check group) (setGroupUpdate_shaped group)
    (fun kv hkv => by rw [List.mem_singleton.mp hkv, fieldPath_dbDevAttributesGroup]; decide) hd

theorem setGroupUpdate_valueAt (h : (setGroupUpdate group).apply insert d = .ok e) :
    e.valueAt groupPath = (groupRecord group).encode := by
  simpa only [fieldPath_dbDevAttributesGroup] using Update.apply_valueAt_of_set h (List.mem_singleton_self _)

theorem setGroupUpdate_replaced (h : (setGroupUpdate group).apply insert d = .ok e) :
    Doc.Replaced groupPath (groupRecord group).encode d e :=
  ⟨Update.apply_id h, setGroupUpdate_valueAt h, fun _ hq => setGroupUpdate_get_of_outside h hq⟩

end SetGroup

/-- **A write of the group record modifies a device exactly when its stored record
is not the one written**, field for field and in order. -/
@[simp] theorem setGroupUpdate_modifies (group : String) (d : Doc) :
    (setGroupUpdate group).modifies d = !decide (d.valueAt groupPath = (groupRecord group).encode) := by
  simp [Update.modifies, setGroupUpdate, fieldPath_dbDevAttributesGroup]

/-- **Removing the group record modifies a device exactly when it has one.** -/
@[simp] theorem unsetGroupUpdate_modifies (d : Doc) : unsetGroupUpdate.modifies d = d.has groupPath := by
  simp [Update.modifies, unsetGroupUpdate, fieldPath_dbDevAttributesGroup]

theorem unsetGroupUpdate_apply (insert : Bool) (d : Doc) :
    unsetGroupUpdate.apply insert d = .ok (unsetField groupPath d) := by
  cases insert <;> rfl

theorem unsetField_cleared (p : Path) (d : Doc) : Doc.Cleared p d (unsetField p d) :=
  ⟨rfl, unsetField_has_self p d, fun _ hq => unsetField_get_of_outside d hq⟩

/-- A leaf a document stores is read at its path. -/
theorem Doc.get_ne_none {d : Doc} {f : Path × Leaf} (hf : f ∈ d.fields) : d.get f.1 ≠ none := by
  simp only [Doc.get, leafAt, ne_eq, Option.map_eq_none', List.find?_eq_none, not_forall,
    decide_eq_true_eq, not_not]
  exact ⟨f, hf, rfl⟩

/-! ### The operations -/

/-- **`UnsetDeviceGroup`**: the group record of the device `id` removed, if its group
is `groupName`; `ErrDevNotFound` when nothing was modified. -/
def unsetDeviceGroup (net : Backend) (c : Collection) (id : DeviceID) (groupName : String) :
    Except Failure Unit × Collection :=
  match updateMany net c (.and [.idEq id, groupValueFilter groupName]) unsetGroupUpdate
      unsetGroupUpdate_shaped with
  | (.error e, c') => (.error (.error (.mongo e)), c')
  | (.ok res, c') => (if res.modifiedCount ≤ 0 then .error (.error .devNotFound) else .ok (), c')

/-- **`UpdateDeviceGroup`**: the group record of the device `devId` set to `newGroup`;
`ErrDevNotFound` when nothing was modified. -/
def updateDeviceGroup (net : Backend) (c : Collection) (devId : DeviceID) (newGroup : String) :
    Except Failure Unit × Collection :=
  match updateOne net c (.idEq devId) (setGroupUpdate newGroup) (setGroupUpdate_shaped newGroup) with
  | (.error e, c') => (.error (.error (.mongo e)), c')
  | (.ok res, c') => (if res.modifiedCount > 0 then .ok () else .error (.error .devNotFound), c')

/-- **`UpdateDevicesGroup`**: the group record of every listed device set to `group`;
the matched and the modified counts. -/
def updateDevicesGroup (net : Backend) (c : Collection) (devIDs : List DeviceID) (group : String) :
    Except Failure (Int × Int) × Collection :=
  match updateMany net c (.idIn devIDs) (setGroupUpdate group) (setGroupUpdate_shaped group) with
  | (.error e, c') => (.error (.error (.mongo e)), c')
  | (.ok res, c') => (.ok (res.matchedCount, res.modifiedCount), c')

/-- **`UnsetDevicesGroup`**: the group record removed from every listed device whose
group is `group`; the modified count. -/
def unsetDevicesGroup (net : Backend) (c : Collection) (deviceIDs : List DeviceID) (group : String) :
    Except Failure Int × Collection :=
  match updateMany net c (.and [.idIn deviceIDs, groupValueFilter group]) unsetGroupUpdate
      unsetGroupUpdate_shaped with
  | (.error e, c') => (.error (.error (.mongo e)), c')
  | (.ok res, c') => (.ok res.modifiedCount, c')

/-- The panic of the type assertion `d.(string)` on a value that is not a string. -/
def stringAssertion : String := "interface conversion: interface \x7b\x7d is not string"

/-- `model.GroupName(d.(string))`. -/
def asGroupName : DistinctValue → Except Failure String
  | .scalar (.str s) => .ok s
  | _ => .error (.panic stringAssertion)

/-- **`ListGroups`**: the distinct group values, each asserted to be a string. -/
def listGroups (net : Backend) (c : Collection) : Except Failure (List String) :=
  match distinct net c dbDevAttributesGroupValue (.existsField dbDevAttributesGroupValue true) with
  | .error e => .error (.error (.mongo e))
  | .ok results => results.mapM asGroupName

/-- **`DeleteDevice`**: the device's document removed; `ErrDevNotFound` when none was. -/
def deleteDevice (net : Backend) (c : Collection) (id : DeviceID) : Except Failure Unit × Collection :=
  match deleteOne net c id with
  | (.error e, c') => (.error (.error (.mongo e)), c')
  | (.ok n, c') => (if n < 1 then .error (.error .devNotFound) else .ok (), c')

/-! ### The single-device operations on a store that does not fail -/

/-- Among documents of distinct `_id`s, none of `_id` `id` has `P` exactly when the
document `id` finds does not. -/
theorem countP_id_eq_zero (c : Collection) (id : DeviceID) (P : Doc → Bool) :
    c.docs.countP (fun d => decide (d.id = id) && P d) = 0 ↔ (c.find? id).any P = false := by
  rw [List.countP_eq_zero]
  constructor
  · intro h
    cases hd : c.find? id with
    | none => rfl
    | some d =>
        obtain ⟨hmem, hid⟩ := Collection.find?_eq_some_iff.mp hd
        simpa [hid] using h d hmem
  · intro h d hd hP
    rw [Collection.find?_eq_some_iff.mpr ⟨hd, by simpa using (Bool.and_eq_true _ _).mp hP |>.1⟩] at h
    simp_all

theorem updateDeviceGroup_absent {c : Collection} {id : DeviceID} (g : String)
    (hn : c.find? id = none) : updateDeviceGroup .healthy c id g = (.error (.error .devNotFound), c) := by
  rw [updateDeviceGroup, updateOne_of_find?_none (setGroupUpdate_shaped g) (f := .idEq id) rfl
    ((find?_idEq c id).trans hn) (setGroupUpdate_check g)]
  rfl

/-- **`UpdateDeviceGroup` on a device that exists**: the record written, and
`ErrDevNotFound` exactly when the device's record was already stored as the one
written, field for field and in order. -/
theorem updateDeviceGroup_present {c : Collection} {id : DeviceID} (g : String) {d : Doc}
    (hd : c.find? id = some d) :
    ∃ e, (setGroupUpdate g).apply false d = .ok e ∧
      (updateDeviceGroup .healthy c id g).1 =
        (if d.valueAt groupPath = (groupRecord g).encode then .error (.error .devNotFound) else .ok ()) ∧
      ∀ id', (updateDeviceGroup .healthy c id g).2.find? id' = if id' = id then some e else c.find? id' := by
  obtain ⟨e, he⟩ := setGroupUpdate_ok g false (c.layout d (Collection.find?_eq_some_iff.mp hd).1)
  have hid : d.id = id := (Collection.find?_eq_some_iff.mp hd).2
  obtain ⟨h₁, h₂⟩ := updateOne_of_find?_some (setGroupUpdate_shaped g) (f := .idEq id) rfl
    ((find?_idEq c id).trans hd) he
  refine ⟨e, he, ?_⟩
  unfold updateDeviceGroup
  split
  · rename_i heq; rw [heq] at h₁; cases h₁
  · rename_i res c' heq
    rw [heq] at h₁ h₂
    cases h₁
    refine ⟨?_, fun id' => by rw [← hid]; exact h₂ id'⟩
    by_cases hv : d.valueAt groupPath = (groupRecord g).encode <;> simp [modifiedOne, hv]

/-- **The unset through a group filter, on a store that does not fail**: every
document that `f` and the group `g` pass is modified, and loses its group record;
every other document is left as it was. -/
theorem updateMany_unsetGroup (c : Collection) {f : Query} (hf : f.check = .ok ()) (g : String) :
    (updateMany .healthy c (.and [f, groupValueFilter g]) unsetGroupUpdate
        unsetGroupUpdate_shaped).1 =
        .ok ⟨c.docs.countP (fun d => f.matches d && d.InGroup g),
          c.docs.countP (fun d => f.matches d && d.InGroup g), 0⟩ ∧
      ∀ id, Option.Rel (fun d e => if f.matches d && d.InGroup g then Doc.Cleared groupPath d e
          else e = d) (c.find? id)
        ((updateMany .healthy c (.and [f, groupValueFilter g]) unsetGroupUpdate
          unsetGroupUpdate_shaped).2.find? id) := by
  have hm : ∀ d : Doc, (Query.and [f, groupValueFilter g]).matches d = (f.matches d && d.InGroup g) :=
    fun d => by simp
  -- a device of the group has a record to remove
  have hmod : ∀ d : Doc, (f.matches d && d.InGroup g && unsetGroupUpdate.modifies d) =
      (f.matches d && d.InGroup g) := fun d => by
    rw [unsetGroupUpdate_modifies]
    cases hi : d.InGroup g
    · simp
    · simp [has_of_inGroup hi]
  obtain ⟨h₁, h₂⟩ := updateMany_healthy unsetGroupUpdate_shaped (c := c)
    (f := .and [f, groupValueFilter g]) (by simp [Query.check, Query.checkAll, hf, groupValueFilter]; rfl)
    rfl fun d _ _ => ⟨_, unsetGroupUpdate_apply false d⟩
  refine ⟨by simpa only [hm, hmod] using h₁, fun id => rel_imp (h₂ id) fun d e _ hde => ?_⟩
  rw [hm] at hde
  split_ifs at hde ⊢
  · obtain rfl := Except.ok.inj (hde.symm.trans (unsetGroupUpdate_apply false d))
    exact unsetField_cleared _ _
  · exact hde

/-- **`UnsetDeviceGroup` on a store that does not fail**: `ErrDevNotFound` unless the
device `id` is in the group, and that device's record removed. -/
theorem unsetDeviceGroup_healthy (c : Collection) (id : DeviceID) (g : String) :
    (unsetDeviceGroup .healthy c id g).1 =
        (if (c.find? id).any (·.InGroup g) then .ok () else .error (.error .devNotFound)) ∧
      ∀ id', Option.Rel (fun d e => if id' = id ∧ d.InGroup g then Doc.Cleared groupPath d e else e = d)
        (c.find? id') ((unsetDeviceGroup .healthy c id g).2.find? id') := by
  obtain ⟨h₁, h₂⟩ := updateMany_unsetGroup c (f := .idEq id) rfl g
  unfold unsetDeviceGroup
  split
  · rename_i heq; rw [heq] at h₁; cases h₁
  · rename_i res c' heq
    rw [heq] at h₁ h₂
    cases h₁
    refine ⟨?_, fun id' => rel_imp (h₂ id') fun d e hd hde => ?_⟩
    · simp only [Query.matches_idEq, Nat.le_zero]
      by_cases hany : (c.find? id).any (·.InGroup g) = true
      · rw [if_neg (mt (countP_id_eq_zero c id _).mp (by simpa using hany)), if_pos hany]
      · rw [if_pos ((countP_id_eq_zero c id _).mpr (by simpa using hany)), if_neg hany]
    · rw [Query.matches_idEq, (Collection.find?_eq_some_iff.mp hd).2] at hde
      simpa only [Bool.and_eq_true, decide_eq_true_eq] using hde

/-- **`DeleteDevice` on a store that does not fail**: `ErrDevNotFound` unless the
device exists, and its document, and only it, gone. -/
theorem deleteDevice_healthy (c : Collection) (id : DeviceID) :
    (deleteDevice .healthy c id).1 = (if (c.find? id).isSome then .ok () else .error (.error .devNotFound)) ∧
      ∀ id', (deleteDevice .healthy c id).2.find? id' = if id' = id then none else c.find? id' := by
  have hsnd : (deleteDevice .healthy c id).2 = (deleteOne .healthy c id).2 := by
    unfold deleteDevice
    split <;> rename_i heq <;> rw [heq]
  refine ⟨?_, fun id' => by rw [hsnd, find?_deleteOne]; simp [Backend.wrote]⟩
  cases hd : c.find? id <;> simp [deleteDevice, deleteOne, runDeleteOne, hd]

/-! ### Assigning a group twice -/

/-- **Assigning a device the group it was just assigned reports `ErrDevNotFound`**,
though the device exists: the second write modifies nothing. -/
theorem updateDeviceGroup_twice_not_found {c : Collection} {id : DeviceID} (g : String)
    (hd : (c.find? id).isSome) :
    ((updateDeviceGroup .healthy c id g).2.find? id).isSome ∧
      (updateDeviceGroup .healthy (updateDeviceGroup .healthy c id g).2 id g).1 =
        .error (.error .devNotFound) := by
  obtain ⟨d, hd⟩ := Option.isSome_iff_exists.mp hd
  obtain ⟨e, he, -, hfind⟩ := updateDeviceGroup_present g hd
  have he' : (updateDeviceGroup .healthy c id g).2.find? id = some e := by rw [hfind, if_pos rfl]
  obtain ⟨-, -, hres, -⟩ := updateDeviceGroup_present g he'
  refine ⟨by rw [he']; rfl, ?_⟩
  rw [hres, if_pos (setGroupUpdate_valueAt he)]

/-- Assigning the device `a` the group `g` twice. -/
theorem updateDeviceGroup_twice_not_found_a :
    (((updateDeviceGroup .healthy (addDevice .healthy 0 Collection.empty ⟨"a", [], ""⟩).2 "a" "g").2.find?
        "a").isSome ∧
      (updateDeviceGroup .healthy (updateDeviceGroup .healthy
          (addDevice .healthy 0 Collection.empty ⟨"a", [], ""⟩).2 "a" "g").2 "a" "g").1 =
        .error (.error .devNotFound)) :=
  updateDeviceGroup_twice_not_found "g" (by decide)

/-- **A group record `AddDevice` stored reads as the one the setters write and is
still rewritten**: its fields are in the server's order, not the struct's, so
assigning the device the group it has succeeds. -/
theorem updateDeviceGroup_rewrites_added_group :
    ((addDevice .healthy 0 Collection.empty ⟨"a", [], "g"⟩).2.find? "a").any (fun d =>
        d.holds groupPath (groupRecord "g").encode && !decide (d.valueAt groupPath = (groupRecord "g").encode)) ∧
      (updateDeviceGroup .healthy (addDevice .healthy 0 Collection.empty ⟨"a", [], "g"⟩).2 "a" "g").1 = .ok () := by
  decide

/-! ### The bulk operations on a store that does not fail -/

/-- **`UpdateDevicesGroup`**: the listed devices that exist matched, those whose
record was not stored as the one written modified, and the record written to each
matched device only. -/
theorem updateDevicesGroup_healthy (c : Collection) (ids : List DeviceID) (g : String) :
    (updateDevicesGroup .healthy c ids g).1 =
        .ok ((c.docs.countP (ids.contains ·.id) : Int),
          (c.docs.countP fun d => ids.contains d.id &&
            !decide (d.valueAt groupPath = (groupRecord g).encode) : Int)) ∧
      ∀ id, Option.Rel (fun d e => if id ∈ ids then Doc.Replaced groupPath (groupRecord g).encode d e
          else e = d) (c.find? id) ((updateDevicesGroup .healthy c ids g).2.find? id) := by
  obtain ⟨h₁, h₂⟩ := updateMany_healthy (setGroupUpdate_shaped g) (c := c) (f := .idIn ids) rfl rfl
    fun d hd _ => setGroupUpdate_ok g false (c.layout d hd)
  simp only [setGroupUpdate_modifies] at h₁
  unfold updateDevicesGroup
  split
  · rename_i heq; rw [heq] at h₁; cases h₁
  · rename_i res c' heq
    rw [heq] at h₁ h₂
    cases h₁
    refine ⟨rfl, fun id => rel_imp (h₂ id) fun d e hd hde => ?_⟩
    have hid : d.id = id := (Collection.find?_eq_some_iff.mp hd).2
    simp only [Query.matches, hid, List.elem_eq_mem, decide_eq_true_eq] at hde
    split_ifs at hde ⊢
    · exact setGroupUpdate_replaced hde
    · exact hde

/-- **`UnsetDevicesGroup`**: the listed devices of the group modified, and the record
removed from each of them only. -/
theorem unsetDevicesGroup_healthy (c : Collection) (ids : List DeviceID) (g : String) :
    (unsetDevicesGroup .healthy c ids g).1 =
        .ok (c.docs.countP fun d => ids.contains d.id && d.InGroup g : Int) ∧
      ∀ id, Option.Rel (fun d e => if id ∈ ids ∧ d.InGroup g then Doc.Cleared groupPath d e else e = d)
        (c.find? id) ((unsetDevicesGroup .healthy c ids g).2.find? id) := by
  obtain ⟨h₁, h₂⟩ := updateMany_unsetGroup c (f := .idIn ids) rfl g
  unfold unsetDevicesGroup
  split
  · rename_i heq; rw [heq] at h₁; cases h₁
  · rename_i res c' heq
    rw [heq] at h₁ h₂
    cases h₁
    refine ⟨by simp only [Query.matches_idIn, List.elem_eq_mem], fun id => rel_imp (h₂ id) fun d e hd hde => ?_⟩
    rw [Query.matches_idIn, (Collection.find?_eq_some_iff.mp hd).2] at hde
    simpa only [Bool.and_eq_true, decide_eq_true_eq] using hde

/-- **The bulk group operations on a store that does not fail**: `UpdateDevicesGroup`
reports the listed devices that exist as matched and those whose stored record
differed from the one written, field order included, as modified, and writes the
record to each of them only; `UnsetDevicesGroup` reports and clears the listed
devices of the group, and only them. -/
theorem bulk_group_writes (c : Collection) (ids : List DeviceID) (g : String) :
    ((updateDevicesGroup .healthy c ids g).1 =
        .ok ((c.docs.countP (ids.contains ·.id) : Int),
          (c.docs.countP fun d => ids.contains d.id &&
            !decide (d.valueAt groupPath = (groupRecord g).encode) : Int)) ∧
      ∀ id, Option.Rel (fun d e => if id ∈ ids then Doc.Replaced groupPath (groupRecord g).encode d e
          else e = d) (c.find? id) ((updateDevicesGroup .healthy c ids g).2.find? id)) ∧
    ((unsetDevicesGroup .healthy c ids g).1 =
        .ok (c.docs.countP fun d => ids.contains d.id && d.InGroup g : Int) ∧
      ∀ id, Option.Rel (fun d e => if id ∈ ids ∧ d.InGroup g then Doc.Cleared groupPath d e else e = d)
        (c.find? id) ((unsetDevicesGroup .healthy c ids g).2.find? id)) :=
  ⟨updateDevicesGroup_healthy c ids g, unsetDevicesGroup_healthy c ids g⟩

/-- **`UnsetDevicesGroup` clears a group value that is an array holding the name**:
the device `a`, whose group value is `["g", "h"]` and not `"g"`, is counted and
loses its group. -/
theorem unsetDevicesGroup_clears_array :
    ((upsertAttributes .healthy 0 Collection.empty "a"
        [⟨attrNameGroup, none, some (.array [.str "g", .str "h"]), attrScopeSystem⟩]).2.find? "a").bind
        (·.get groupValuePath) = some (.array [.str "g", .str "h"]) ∧
      (unsetDevicesGroup .healthy (upsertAttributes .healthy 0 Collection.empty "a"
        [⟨attrNameGroup, none, some (.array [.str "g", .str "h"]), attrScopeSystem⟩]).2 ["a"] "g").1 =
        .ok 1 ∧
      ((unsetDevicesGroup .healthy (upsertAttributes .healthy 0 Collection.empty "a"
        [⟨attrNameGroup, none, some (.array [.str "g", .str "h"]), attrScopeSystem⟩]).2 ["a"] "g").2.find?
        "a").any (·.has groupPath) = false := by
  decide

end DeviceInventory
