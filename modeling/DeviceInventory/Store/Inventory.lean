import DeviceInventory.Store.Invariants

/-!
# The abstract inventory

What the store is for, in the spec's terms: every device has an attribute map, one
record per (scope, name) pair; an upsert merges a batch into it and stamps it; the
group is the reserved `system`/`group` record, assigned unconditionally and removed
by compare-and-clear; a delete removes the device.  `Op.spec` is that description,
as a function on `Inventory`, and this module proves that the store, documents,
filters and update commands included, implements it.

## Main definitions

* `Inventory` — a map from device ids to attribute maps, `none` for a device the
  store does not have.
* `upsertSpec`, `assignGroup`, `unassignGroup`, `Op.spec` — the calls on it.
* `DeviceAttribute.Ordinary`, `Op.Ordinary` — the submitted attributes the merge
  describes: named, following the key convention, and not a timestamp.
* `Collection.Refines` — the store holds an inventory: the same devices, each with
  the inventory's record at every conventional pair, and group values that are
  names.
* `Op.run`, `Op.runSpec` — a run of calls on the store, and on the inventory.

## Main statements

* `Op.step_refines` — one call on a store that does not fail refines the
  inventory's call.
* `store_refines_inventory` — every run of valid, ordinary calls from the empty
  store holds the inventory the same calls give.

## Design notes

A document's map is read at conventional pairs only: two pairs whose keys
`<scope>-<name>` coincide (`a-b`/`c` and `a`/`b-c`) share a record, so no store
keeps them apart, and `AttrMap.Agree` compares maps where they can differ.  Each
call is related to its inventory counterpart through what it does to `Doc.attrMap`:
the merge (`upsertAttributes_ordinary`), a record written whole
(`Doc.Replaced.attrMap_eq`), a record removed (`Doc.Cleared.attrMap_eq`).  The
compare of compare-and-clear is MongoDB equality, which also matches an array
holding the name; under the group invariant `Doc.GroupOk` every group value is a
string and the compare is the spec's equality (`inGroup_iff`), which is why the
invariant is part of `Collection.Refines`.
-/

namespace DeviceInventory

/-! ### The merge on attribute maps -/

/-- **The merge computes the record of a pair from the prior record of that pair
alone.** -/
theorem mergeAttrs_congr {p : String × String} :
    ∀ {M M' : AttrMap} (A : List DeviceAttribute), M p = M' p → mergeAttrs M A p = mergeAttrs M' A p
  | _, _, [], h => h
  | M, M', a :: A, h => by
      simp only [mergeAttrs]
      refine mergeAttrs_congr A ?_
      by_cases hp : p = (a.effScope, a.name)
      · subst hp
        rw [Function.update_same, Function.update_same, h]
      · rw [Function.update_noteq hp, Function.update_noteq hp, h]

/-- A pair no attribute of the batch names keeps its record. -/
theorem mergeAttrs_of_not_mem {p : String × String} :
    ∀ {M : AttrMap} {A : List DeviceAttribute}, (∀ a ∈ A, (a.effScope, a.name) ≠ p) →
      mergeAttrs M A p = M p
  | _, [], _ => rfl
  | M, a :: A, h => by
      rw [mergeAttrs, mergeAttrs_of_not_mem fun b hb => h b (List.mem_cons_of_mem a hb),
        Function.update_noteq (h a (List.mem_cons_self a A)).symm]

/-! ### Ordinary attributes -/

/-- **An attribute the merge describes**: named, following the key convention, and
not one of the two pairs the store stamps itself. -/
def DeviceAttribute.Ordinary (a : DeviceAttribute) : Prop :=
  a.name ≠ "" ∧ KeyConvention a.effScope a.name ∧ (a.effScope, a.name) ∉ stampPairs

instance decidableAttributeOrdinary (a : DeviceAttribute) : Decidable a.Ordinary :=
  inferInstanceAs (Decidable (_ ∧ _))

theorem updated_mem_stampPairs : (attrScopeSystem, attrNameUpdated) ∈ stampPairs :=
  List.mem_cons_self _ _

theorem created_mem_stampPairs : (attrScopeSystem, attrNameCreated) ∈ stampPairs :=
  List.mem_cons_of_mem _ (List.mem_singleton_self _)

theorem DeviceAttribute.Ordinary.ne_stamp {a : DeviceAttribute} (ha : a.Ordinary) {p : String × String}
    (hp : p ∈ stampPairs) : (a.effScope, a.name) ≠ p :=
  fun h => ha.2.2 (h ▸ hp)

/-- **The calls whose attributes are ordinary**; the group writes and the delete
submit none. -/
def Op.Ordinary : Op → Prop
  | .addDevice dev => ∀ a ∈ dev.attributes, a.Ordinary
  | .upsertAttributes _ attrs => ∀ a ∈ attrs, a.Ordinary
  | _ => True

instance decidableOpOrdinary : DecidablePred Op.Ordinary := fun op => by
  cases op <;> unfold Op.Ordinary <;> infer_instance

/-- The group attribute `AddDevice` appends is ordinary. -/
theorem groupAttribute_ordinary (g : String) : (groupAttribute g).Ordinary :=
  ⟨(by decide : attrNameGroup ≠ ""), (by decide : KeyConvention attrScopeSystem attrNameGroup),
    (by decide : (attrScopeSystem, attrNameGroup) ∉ stampPairs)⟩

theorem Device.upsertList_ordinary {dev : Device} (h : ∀ a ∈ dev.attributes, a.Ordinary) :
    ∀ a ∈ dev.upsertList, a.Ordinary := by
  unfold Device.upsertList
  split_ifs
  · exact fun a ha => (List.mem_append.mp ha).elim (h a) fun ha =>
      List.mem_singleton.mp ha ▸ groupAttribute_ordinary dev.group
  · exact h

/-! ### The inventory and its calls -/

/-- **The abstract inventory**: each device's attribute map, `none` for a device
the store does not have. -/
abbrev Inventory := DeviceID → Option AttrMap

/-- Two attribute maps with the same record at every pair of the key convention. -/
def AttrMap.Agree (M M' : AttrMap) : Prop := ∀ s n, KeyConvention s n → M (s, n) = M' (s, n)

/-- **`UpsertAttributes` in the spec's terms**: the batch merged into the prior map
(empty for a new device), `updated` stamped with the clock reading, and `created`
too for a new device. -/
def upsertSpec (prior : Option AttrMap) (attrs : List DeviceAttribute) (now : Int) : AttrMap :=
  let merged := Function.update (mergeAttrs (prior.getD fun _ => .empty) attrs)
    (attrScopeSystem, attrNameUpdated) (Entry.empty.merge (stamp attrNameUpdated now))
  if prior.isNone then
    Function.update merged (attrScopeSystem, attrNameCreated)
      (Entry.empty.merge (stamp attrNameCreated now))
  else merged

/-- **Assigning a group**: the reserved record set to the group, whatever it held. -/
def assignGroup (g : String) (M : AttrMap) : AttrMap :=
  Function.update M (attrScopeSystem, attrNameGroup) (Entry.empty.merge (groupRecord g))

/-- **Compare-and-clear**: the reserved record removed when its value is the
expected group, the map left alone otherwise. -/
def unassignGroup (g : String) (M : AttrMap) : AttrMap :=
  if (M (attrScopeSystem, attrNameGroup)).value = some (.scalar (.str g)) then
    Function.update M (attrScopeSystem, attrNameGroup) .empty
  else M

/-- **The calls on the inventory**, as the spec describes them; `AddDevice`
upserts the device's attributes with its group appended. -/
def Op.spec (now : Int) : Op → Inventory → Inventory
  | .addDevice dev, S => Function.update S dev.id (some (upsertSpec (S dev.id) dev.upsertList now))
  | .upsertAttributes id attrs, S => Function.update S id (some (upsertSpec (S id) attrs now))
  | .updateDeviceGroup devId newGroup, S =>
      Function.update S devId ((S devId).map (assignGroup newGroup))
  | .updateDevicesGroup devIDs group, S =>
      fun id => if id ∈ devIDs then (S id).map (assignGroup group) else S id
  | .unsetDeviceGroup id groupName, S => Function.update S id ((S id).map (unassignGroup groupName))
  | .unsetDevicesGroup deviceIDs group, S =>
      fun id => if id ∈ deviceIDs then (S id).map (unassignGroup group) else S id
  | .deleteDevice id, S => Function.update S id none

/-- **A run of calls** on the store `net`, each with its clock reading. -/
def Op.run (net : Backend) : List (Op × Int) → Collection → Collection
  | [], c => c
  | (op, now) :: calls, c => Op.run net calls (op.step net now c)

/-- The same run on the inventory. -/
def Op.runSpec : List (Op × Int) → Inventory → Inventory
  | [], S => S
  | (op, now) :: calls, S => Op.runSpec calls (op.spec now S)

/-! ### The calls keep agreeing maps agreeing -/

theorem upsertSpec_agree {P Q : Option AttrMap} (h : Option.Rel AttrMap.Agree P Q)
    (attrs : List DeviceAttribute) (now : Int) :
    AttrMap.Agree (upsertSpec P attrs now) (upsertSpec Q attrs now) := fun s n hsn => by
  cases h with
  | none => rfl
  | some hM =>
      simp only [upsertSpec, Option.isNone_some, Bool.false_eq_true, if_false, Option.getD_some,
        Function.update_apply]
      split_ifs
      · rfl
      · exact mergeAttrs_congr attrs (hM s n hsn)

theorem assignGroup_agree {M M' : AttrMap} (h : AttrMap.Agree M M') (g : String) :
    AttrMap.Agree (assignGroup g M) (assignGroup g M') := fun s n hsn => by
  simp only [assignGroup, Function.update_apply, h s n hsn]

/-! ### What each call does to attribute maps -/

theorem expectedMap_eq_upsertSpec (prior : Option Doc) (attrs : List DeviceAttribute) (now : Int) :
    expectedMap prior attrs now = upsertSpec (prior.map Doc.attrMap) attrs now := by
  cases prior <;> rfl

/-- **`UpsertAttributes` of ordinary attributes on a store that does not fail**: the
call succeeds, no other device changes, and the device's map is the spec's. -/
theorem upsertAttributes_ordinary (c : Collection) (id : DeviceID) (now : Int)
    {attrs : List DeviceAttribute} (h : ∀ a ∈ attrs, a.Ordinary) :
    (upsertAttributes .healthy now c id attrs).1 = .ok () ∧
      (∀ id', id' ≠ id → (upsertAttributes .healthy now c id attrs).2.find? id' = c.find? id') ∧
      ∃ d', (upsertAttributes .healthy now c id attrs).2.find? id = some d' ∧
        ∀ s n, KeyConvention s n → d'.attrMap (s, n) = expectedMap (c.find? id) attrs now (s, n) := by
  have hconv : ∀ a ∈ attrs, KeyConvention a.effScope a.name := fun a ha => (h a ha).2.1
  obtain ⟨m, hm⟩ := makeAttrUpsertFrom_ok (m := []) fun a ha => (h a ha).1
  obtain ⟨d', hd'⟩ := Update.apply_ok_of_layout (c.find? id).isNone
    (upsertUpdate_check hm hconv (fun a ha => (h a ha).2.2) now) (upsertUpdate_shaped hm now)
    (upsertUpdate_lengths hm hconv now) (c.layout_find?_getD id)
  obtain ⟨⟨r, hr⟩, hfind, hother⟩ :=
    upsertOne_of_apply (Backend.healthy_fails _) (upsertUpdate_shaped hm now) hd'
  rw [upsertAttributes_of_ok hm hr]
  refine ⟨rfl, hother, d', hfind, fun s n hsn => ?_⟩
  have hprior : (((c.find? id).map Doc.attrMap).getD fun _ => .empty) =
      ((c.find? id).getD ⟨id, []⟩).attrMap := by
    cases c.find? id <;> rfl
  rw [expectedMap_eq, hprior]
  split_ifs with hu hc
  · rw [hu]; exact upsertUpdate_entry_updated hd'
  · rw [hc.2]; rw [hc.1] at hd'; exact upsertUpdate_entry_created hd'
  · rw [makeAttrUpsert_tracks hm hconv _ hsn]
    exact upsertUpdate_entry hm hconv hd' hsn hu fun hins hcr => hc ⟨hins, hcr⟩

/-- A document that reads as another outside the record of a `system` pair has the
other's record at every other conventional pair. -/
theorem attrMap_of_outside {d e : Doc} {name : String}
    (h : ∀ q, ¬ [dbDevAttributes, attrScopeSystem ++ "-" ++ name] <+: q → e.get q = d.get q)
    {s n : String} (hsn : KeyConvention s n) (hp : (s, n) ≠ (attrScopeSystem, name)) :
    e.attrMap (s, n) = d.attrMap (s, n) := by
  have hout : ∀ sub, e.get [dbDevAttributes, s ++ "-" ++ n, sub] =
      d.get [dbDevAttributes, s ++ "-" ++ n, sub] :=
    fun sub => h _ fun hpre => hp (pair_eq_of_stamp_above hsn hpre)
  simp only [Doc.attrMap, Doc.entry, hout]

/-- **The group record written whole is the assignment of the group.** -/
theorem Doc.Replaced.attrMap_eq {g : String} {d e : Doc}
    (h : Doc.Replaced groupPath (groupRecord g).encode d e) {s n : String} (hsn : KeyConvention s n) :
    e.attrMap (s, n) = assignGroup g d.attrMap (s, n) := by
  by_cases hp : (s, n) = (attrScopeSystem, attrNameGroup)
  · obtain ⟨rfl, rfl⟩ := Prod.mk.inj hp
    have hr := fun sub => h.get_append [sub]
    simp only [groupPath, List.cons_append, List.nil_append] at hr
    simp only [assignGroup, Function.update_same, Doc.attrMap, Doc.entry, hr]
    rfl
  · rw [assignGroup, Function.update_noteq hp]
    exact attrMap_of_outside h.2.2 hsn hp

/-- Nothing is left below a record removed. -/
theorem Doc.Cleared.get_append {p : Path} {d e : Doc} (h : Doc.Cleared p d e) (r : Path) :
    e.get (p ++ r) = none := by
  cases hg : e.get (p ++ r) with
  | none => rfl
  | some w => exact absurd (h.2.1.symm.trans (Doc.has_of_get hg (List.prefix_append _ _))) Bool.false_ne_true

/-- **The group record removed leaves the group's pair empty.** -/
theorem Doc.Cleared.attrMap_eq {d e : Doc} (h : Doc.Cleared groupPath d e) {s n : String}
    (hsn : KeyConvention s n) :
    e.attrMap (s, n) = Function.update d.attrMap (attrScopeSystem, attrNameGroup) .empty (s, n) := by
  by_cases hp : (s, n) = (attrScopeSystem, attrNameGroup)
  · obtain ⟨rfl, rfl⟩ := Prod.mk.inj hp
    have hr := fun sub => h.get_append [sub]
    simp only [groupPath, List.cons_append, List.nil_append] at hr
    simp only [Function.update_same, Doc.attrMap, Doc.entry, hr]
    rfl
  · rw [Function.update_noteq hp]
    exact attrMap_of_outside h.2.2 hsn hp

/-- **Under the group invariant, MongoDB's equality on the group's value is the
spec's**: a device is in `g` exactly when its group record holds the string `g`. -/
theorem inGroup_iff {d : Doc} (hd : d.GroupOk) (g : String) :
    d.InGroup g = true ↔
      (d.attrMap (attrScopeSystem, attrNameGroup)).value = some (.scalar (.str g)) := by
  show eqMatch d groupValuePath _ = true ↔ d.get groupValuePath = _
  refine eqMatch_str_iff.trans ⟨fun h => h.elim id fun ⟨xs, hxs, _⟩ => ?_, .inl⟩
  obtain ⟨g', -, hg'⟩ := hd (Doc.has_of_get hxs (List.prefix_append _ _))
  rw [hg'] at hxs
  cases hxs

/-! ### The refinement -/

/-- **The store holds the inventory `S`**: every device's group value is a name, and
the store has exactly the devices `S` has, each with `S`'s record at every
conventional pair. -/
def Collection.Refines (c : Collection) (S : Inventory) : Prop :=
  (∀ d ∈ c.docs, d.GroupOk) ∧ ∀ id, Option.Rel AttrMap.Agree ((c.find? id).map Doc.attrMap) (S id)

theorem Collection.refines_empty : Collection.empty.Refines fun _ => none :=
  ⟨fun _ h => absurd h (List.not_mem_nil _), fun _ => .none⟩

section Refines

variable {c : Collection} {S : Inventory}

/-- **A call that moves the device's document by `R`, against an inventory call that
maps its map by `F`**: the two stay in step at the device when `R` takes a map
agreeing with `M` to one agreeing with `F M`. -/
theorem Collection.Refines.rel (h : c.Refines S) {c' : Collection} {id : DeviceID}
    {R : Doc → Doc → Prop} (hR : Option.Rel R (c.find? id) (c'.find? id)) {F : AttrMap → AttrMap}
    (hF : ∀ d e M, d.GroupOk → R d e → AttrMap.Agree d.attrMap M → AttrMap.Agree e.attrMap (F M)) :
    Option.Rel AttrMap.Agree ((c'.find? id).map Doc.attrMap) ((S id).map F) := by
  have hS := h.2 id
  have hok : ∀ d, c.find? id = some d → d.GroupOk :=
    fun d hd => h.1 d (Collection.find?_eq_some_iff.mp hd).1
  generalize c.find? id = o at hR hS hok
  generalize c'.find? id = o' at hR
  generalize S id = T at hS
  cases hR with
  | none => cases hS; exact .none
  | some hde =>
      cases hS with
      | some hM => exact .some (hF _ _ _ (hok _ rfl) hde hM)

/-- A device the call leaves as it was stays in step. -/
theorem Collection.Refines.rel_eq (h : c.Refines S) {c' : Collection} {id : DeviceID}
    (hR : Option.Rel (fun d e => e = d) (c.find? id) (c'.find? id)) :
    Option.Rel AttrMap.Agree ((c'.find? id).map Doc.attrMap) (S id) := by
  simpa only [Option.map_id'] using h.rel hR (F := fun M => M) fun _ _ _ _ hde hM => hde ▸ hM

theorem refines_upsertAttributes (h : c.Refines S) (now : Int) (id : DeviceID)
    {attrs : List DeviceAttribute} (ho : ∀ a ∈ attrs, a.Ordinary) (id' : DeviceID) :
    Option.Rel AttrMap.Agree (((upsertAttributes .healthy now c id attrs).2.find? id').map Doc.attrMap)
      (Function.update S id (some (upsertSpec (S id) attrs now)) id') := by
  obtain ⟨-, hother, d', hfind, hmap⟩ := upsertAttributes_ordinary c id now ho
  by_cases hid : id' = id
  · subst hid
    rw [hfind, Function.update_same]
    refine .some fun s n hsn => ?_
    rw [hmap s n hsn, expectedMap_eq_upsertSpec]
    exact upsertSpec_agree (h.2 id') attrs now s n hsn
  · rw [hother id' hid, Function.update_noteq hid]
    exact h.2 id'

/-- `UpdateDeviceGroup` on a store that does not fail writes the group record to
the device, if it exists, and to no other. -/
theorem updateDeviceGroup_rel (c : Collection) (id : DeviceID) (g : String) (id' : DeviceID) :
    Option.Rel (fun d e => if id' = id then Doc.Replaced groupPath (groupRecord g).encode d e else e = d)
      (c.find? id') ((updateDeviceGroup .healthy c id g).2.find? id') := by
  cases hd : c.find? id with
  | none =>
      rw [updateDeviceGroup_absent g hd]
      by_cases hid : id' = id
      · rw [hid, hd]; exact .none
      · cases c.find? id' with
        | none => exact .none
        | some d => exact .some (by simp only [if_neg hid])
  | some d =>
      obtain ⟨e, he, -, hfind⟩ := updateDeviceGroup_present g hd
      rw [hfind]
      by_cases hid : id' = id
      · subst hid
        rw [hd, if_pos rfl]
        exact .some (by simp only [eq_self_iff_true, ite_true]; exact setGroupUpdate_replaced he)
      · rw [if_neg hid]
        cases c.find? id' with
        | none => exact .none
        | some d' => exact .some (by simp only [if_neg hid])

theorem refines_updateDeviceGroup (h : c.Refines S) (id : DeviceID) (g : String) (id' : DeviceID) :
    Option.Rel AttrMap.Agree (((updateDeviceGroup .healthy c id g).2.find? id').map Doc.attrMap)
      (Function.update S id ((S id).map (assignGroup g)) id') := by
  by_cases hid : id' = id
  · subst hid
    rw [Function.update_same]
    refine h.rel (updateDeviceGroup_rel c id' g id') fun d e M _ hde hM s n hsn => ?_
    rw [if_pos rfl] at hde
    rw [hde.attrMap_eq hsn]
    exact assignGroup_agree hM g s n hsn
  · rw [Function.update_noteq hid]
    exact h.rel_eq (rel_imp (updateDeviceGroup_rel c id g id') fun _ _ _ hde => by rwa [if_neg hid] at hde)

theorem refines_updateDevicesGroup (h : c.Refines S) (ids : List DeviceID) (g : String) (id : DeviceID) :
    Option.Rel AttrMap.Agree (((updateDevicesGroup .healthy c ids g).2.find? id).map Doc.attrMap)
      (if id ∈ ids then (S id).map (assignGroup g) else S id) := by
  have hR := (updateDevicesGroup_healthy c ids g).2 id
  split_ifs with hid
  · refine h.rel hR fun d e M _ hde hM s n hsn => ?_
    rw [if_pos hid] at hde
    rw [hde.attrMap_eq hsn]
    exact assignGroup_agree hM g s n hsn
  · exact h.rel_eq (rel_imp hR fun _ _ _ hde => by rwa [if_neg hid] at hde)

/-- The unset through a group filter, against compare-and-clear, on one device. -/
theorem unassign_step {g : String} {d e : Doc} {M : AttrMap} (hd : d.GroupOk)
    (hde : if d.InGroup g then Doc.Cleared groupPath d e else e = d) (hM : AttrMap.Agree d.attrMap M) :
    AttrMap.Agree e.attrMap (unassignGroup g M) := fun s n hsn => by
  have hval : (d.attrMap (attrScopeSystem, attrNameGroup)).value =
      (M (attrScopeSystem, attrNameGroup)).value := by
    rw [hM _ _ (by decide : KeyConvention attrScopeSystem attrNameGroup)]
  unfold unassignGroup
  split_ifs at hde with hin
  · rw [if_pos ((inGroup_iff hd g).mp hin ▸ hval).symm, hde.attrMap_eq hsn]
    simp only [Function.update_apply, hM s n hsn]
  · rw [if_neg fun hv => hin ((inGroup_iff hd g).mpr (hval.trans hv)), hde]
    exact hM s n hsn

theorem refines_unsetDeviceGroup (h : c.Refines S) (id : DeviceID) (g : String) (id' : DeviceID) :
    Option.Rel AttrMap.Agree (((unsetDeviceGroup .healthy c id g).2.find? id').map Doc.attrMap)
      (Function.update S id ((S id).map (unassignGroup g)) id') := by
  have hR := (unsetDeviceGroup_healthy c id g).2 id'
  by_cases hid : id' = id
  · subst hid
    rw [Function.update_same]
    refine h.rel hR fun d e M hd hde hM => unassign_step hd ?_ hM
    simpa only [true_and] using hde
  · rw [Function.update_noteq hid]
    exact h.rel_eq (rel_imp hR fun _ _ _ hde => by rwa [if_neg fun h => hid h.1] at hde)

theorem refines_unsetDevicesGroup (h : c.Refines S) (ids : List DeviceID) (g : String) (id : DeviceID) :
    Option.Rel AttrMap.Agree (((unsetDevicesGroup .healthy c ids g).2.find? id).map Doc.attrMap)
      (if id ∈ ids then (S id).map (unassignGroup g) else S id) := by
  have hR := (unsetDevicesGroup_healthy c ids g).2 id
  split_ifs with hid
  · refine h.rel hR fun d e M hd hde hM => unassign_step hd ?_ hM
    simpa only [hid, true_and] using hde
  · exact h.rel_eq (rel_imp hR fun _ _ _ hde => by rwa [if_neg fun h => hid h.1] at hde)

theorem refines_deleteDevice (h : c.Refines S) (id id' : DeviceID) :
    Option.Rel AttrMap.Agree (((deleteDevice .healthy c id).2.find? id').map Doc.attrMap)
      (Function.update S id none id') := by
  rw [(deleteDevice_healthy c id).2 id', Function.update_apply]
  split_ifs
  · exact .none
  · exact h.2 id'

/-- **One call on a store that does not fail refines the inventory's call**: valid
and ordinary arguments, from a store that holds `S`, give a store that holds
`op.spec now S`. -/
theorem Op.step_refines (h : c.Refines S) (now : Int) {op : Op} (hv : op.Valid) (ho : op.Ordinary) :
    (op.step .healthy now c).Refines (op.spec now S) := by
  refine ⟨groupOk_step .healthy now hv h.1, fun id' => ?_⟩
  cases op with
  | addDevice dev =>
      rw [step_addDevice]
      exact refines_upsertAttributes h now dev.id (Device.upsertList_ordinary ho) id'
  | upsertAttributes id attrs => exact refines_upsertAttributes h now id ho id'
  | updateDeviceGroup id g => exact refines_updateDeviceGroup h id g id'
  | updateDevicesGroup ids g => exact refines_updateDevicesGroup h ids g id'
  | unsetDeviceGroup id g => exact refines_unsetDeviceGroup h id g id'
  | unsetDevicesGroup ids g => exact refines_unsetDevicesGroup h ids g id'
  | deleteDevice id => exact refines_deleteDevice h id id'

end Refines

theorem Op.run_refines : ∀ (calls : List (Op × Int)) {c : Collection} {S : Inventory}, c.Refines S →
    (∀ call ∈ calls, call.1.Valid ∧ call.1.Ordinary) →
    (Op.run .healthy calls c).Refines (Op.runSpec calls S)
  | [], _, _, h, _ => h
  | (_, now) :: calls, _, _, h, hc =>
      have hop := hc _ (List.mem_cons_self _ _)
      Op.run_refines calls (Op.step_refines h now hop.1 hop.2) fun call hcall =>
        hc call (List.mem_cons_of_mem _ hcall)

/-- **The store implements the abstract inventory**: on a server that does not
fail, every run of calls with valid, ordinary arguments from the empty store
leaves exactly the devices the inventory's run leaves, each with the inventory's
record at every pair of the key convention. -/
theorem store_refines_inventory (calls : List (Op × Int))
    (hc : ∀ call ∈ calls, call.1.Valid ∧ call.1.Ordinary) :
    (Op.run .healthy calls Collection.empty).Refines (Op.runSpec calls fun _ => none) :=
  Op.run_refines calls Collection.refines_empty hc

/-- A device added to the group `g` with a `mac` attribute, moved to `h`, and taken
out of `h`. -/
theorem store_refines_inventory_regroup :
    (∀ call ∈ [(Op.addDevice ⟨"a", [⟨"mac", none, some (.scalar (.str "00:11")), ""⟩], "g"⟩, 0),
        (.updateDeviceGroup "a" "h", 1), (.unsetDeviceGroup "a" "h", 2)],
        call.1.Valid ∧ call.1.Ordinary) ∧
      (Op.run .healthy [(Op.addDevice ⟨"a", [⟨"mac", none, some (.scalar (.str "00:11")), ""⟩], "g"⟩, 0),
          (.updateDeviceGroup "a" "h", 1), (.unsetDeviceGroup "a" "h", 2)] Collection.empty).Refines
        (Op.runSpec [(Op.addDevice ⟨"a", [⟨"mac", none, some (.scalar (.str "00:11")), ""⟩], "g"⟩, 0),
          (.updateDeviceGroup "a" "h", 1), (.unsetDeviceGroup "a" "h", 2)] fun _ => none) :=
  ⟨by decide, store_refines_inventory _ (by decide)⟩

end DeviceInventory
