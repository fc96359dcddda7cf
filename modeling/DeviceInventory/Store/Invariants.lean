import DeviceInventory.Store.Groups
import Mathlib.Logic.Relation

/-!
# The store over runs

The seven write operations as one step relation on collections, and what holds in
every state a run of them reaches from the empty collection: the timestamps every
device carries, and the one that never changes (`created_stamp_kept`); the shape
of the group attribute when the calls are valid, and what `ListGroups` returns
then (`groups_listed`); and the only calls that take a device's group away
(`group_cleared_only_by`).

## Main definitions

* `Op`, `Op.step` — a call of a write operation, on a given store and clock reading.
* `Step`, `Reachable` — runs of calls from the empty collection.
* `Doc.CreatedAt`, `Doc.Stamped`, `Doc.GroupOk` — the per-document invariants.
* `DeviceAttribute.Valid`, `Op.Valid` — the arguments the group invariant needs.

## Main statements

* `created_stamp_kept` — every device carries both timestamps; an insert writes
  the clock reading of its call as `created`, and no later call changes it while
  the device exists.
* `groups_listed` — under valid calls every group value is a non-empty string, and
  `ListGroups` returns exactly the held names, once each.
* `group_cleared_only_by` — a device loses its group only to `DeleteDevice`, or to
  an unset whose expected name its group value holds.

## Design notes

Each invariant is proved the same way: what an update document does to one
document (`Update.apply`), carried to the command by `Evolves`, to the call by one
case of `Op.step_cases` (which says once what each of the seven calls can do to
the documents), and to runs by induction over `Reachable`.  Every call
runs on a store of its own, failing or not, so the invariants hold whatever the
server does, a failed `UpdateMany` that updated some documents included; the
calls of several clients interleave into one run, each applied atomically.
-/

namespace DeviceInventory

/-! ### Calls and runs -/

/-- **The store's write operations**, with the arguments of each. -/
inductive Op where
  | addDevice (dev : Device)
  | upsertAttributes (id : DeviceID) (attrs : List DeviceAttribute)
  | updateDeviceGroup (devId : DeviceID) (newGroup : String)
  | updateDevicesGroup (devIDs : List DeviceID) (group : String)
  | unsetDeviceGroup (id : DeviceID) (groupName : String)
  | unsetDevicesGroup (deviceIDs : List DeviceID) (group : String)
  | deleteDevice (id : DeviceID)
deriving DecidableEq, Repr

/-- **One call**, on the store `net` and with the clock reading `now` (the
`time.Now()` of `UpsertAttributes`): the collection afterwards, whatever the call
returned. -/
def Op.step (net : Backend) (now : Int) : Op → Collection → Collection
  | .addDevice dev, c => (DeviceInventory.addDevice net now c dev).2
  | .upsertAttributes id attrs, c => (DeviceInventory.upsertAttributes net now c id attrs).2
  | .updateDeviceGroup devId newGroup, c =>
      (DeviceInventory.updateDeviceGroup net c devId newGroup).2
  | .updateDevicesGroup devIDs group, c =>
      (DeviceInventory.updateDevicesGroup net c devIDs group).2
  | .unsetDeviceGroup id groupName, c => (DeviceInventory.unsetDeviceGroup net c id groupName).2
  | .unsetDevicesGroup deviceIDs group, c =>
      (DeviceInventory.unsetDevicesGroup net c deviceIDs group).2
  | .deleteDevice id, c => (DeviceInventory.deleteDevice net c id).2

/-- One call `allowed` admits, on any store and with any clock reading. -/
def Step (allowed : Op → Prop) (c c' : Collection) : Prop :=
  ∃ net now op, allowed op ∧ c' = op.step net now c

/-- **The states runs of calls `allowed` admits reach from the empty collection.** -/
def Reachable (allowed : Op → Prop) (c : Collection) : Prop :=
  Relation.ReflTransGen (Step allowed) Collection.empty c

/-- **What holds of the empty collection and every call keeps holds of every
reachable state.** -/
theorem Reachable.invariant {allowed : Op → Prop} {P : Collection → Prop} (h₀ : P Collection.empty)
    (hstep : ∀ net now op c, allowed op → P c → P (op.step net now c)) {c : Collection}
    (hc : Reachable allowed c) : P c := by
  induction hc with
  | refl => exact h₀
  | tail _ hs ih =>
      obtain ⟨net, now, op, hop, rfl⟩ := hs
      exact hstep net now op _ hop ih

/-! ### What each operation does to the documents -/

theorem upsertAttributes_evolves (net : Backend) (now : Int) (c : Collection) (id : DeviceID)
    (attrs : List DeviceAttribute) :
    (upsertAttributes net now c id attrs).2 = c ∨ ∃ m, makeAttrUpsert attrs = .ok m ∧
      Evolves (.idEq id) (upsertUpdate m now) true c (upsertAttributes net now c id attrs).2 := by
  unfold upsertAttributes
  split
  · exact .inl rfl
  · rename_i m hm
    have hev := upsertOne_evolves net c id (upsertUpdate m now) (upsertUpdate_shaped hm now)
    refine .inr ⟨m, hm, ?_⟩
    split <;> rename_i heq <;> rwa [heq] at hev

/-- The attribute list `AddDevice` upserts: the device's, with its group appended
when it has one. -/
def Device.upsertList (dev : Device) : List DeviceAttribute :=
  if dev.group ≠ "" then dev.attributes ++ [groupAttribute dev.group] else dev.attributes

theorem step_addDevice (net : Backend) (now : Int) (dev : Device) (c : Collection) :
    (Op.addDevice dev).step net now c = (Op.upsertAttributes dev.id dev.upsertList).step net now c := by
  simp only [Op.step, addDevice, Device.upsertList]
  split
  · rename_i heq; rw [heq]
  · rfl

theorem updateDeviceGroup_evolves (net : Backend) (c : Collection) (id : DeviceID) (g : String) :
    Evolves (.idEq id) (setGroupUpdate g) false c (updateDeviceGroup net c id g).2 := by
  have hev := updateOne_evolves net c (.idEq id) (setGroupUpdate g) (setGroupUpdate_shaped g)
  unfold updateDeviceGroup
  split <;> rename_i heq <;> rwa [heq] at hev

theorem updateDevicesGroup_evolves (net : Backend) (c : Collection) (ids : List DeviceID) (g : String) :
    Evolves (.idIn ids) (setGroupUpdate g) false c (updateDevicesGroup net c ids g).2 := by
  have hev := updateMany_evolves net c (.idIn ids) (setGroupUpdate g) (setGroupUpdate_shaped g)
  unfold updateDevicesGroup
  split <;> rename_i heq <;> rwa [heq] at hev

theorem unsetDeviceGroup_evolves (net : Backend) (c : Collection) (id : DeviceID) (g : String) :
    Evolves (.and [.idEq id, groupValueFilter g]) unsetGroupUpdate false c
      (unsetDeviceGroup net c id g).2 := by
  have hev := updateMany_evolves net c (.and [.idEq id, groupValueFilter g]) unsetGroupUpdate
    unsetGroupUpdate_shaped
  unfold unsetDeviceGroup
  split <;> rename_i heq <;> rwa [heq] at hev

theorem unsetDevicesGroup_evolves (net : Backend) (c : Collection) (ids : List DeviceID) (g : String) :
    Evolves (.and [.idIn ids, groupValueFilter g]) unsetGroupUpdate false c
      (unsetDevicesGroup net c ids g).2 := by
  have hev := updateMany_evolves net c (.and [.idIn ids, groupValueFilter g]) unsetGroupUpdate
    unsetGroupUpdate_shaped
  unfold unsetDevicesGroup
  split <;> rename_i heq <;> rwa [heq] at hev

/-- **`DeleteDevice` makes its own document vanish, and changes nothing else.** -/
theorem deleteDevice_find? (net : Backend) (c : Collection) (id id' : DeviceID) :
    (deleteDevice net c id).2.find? id' = c.find? id' ∨
      id' = id ∧ (deleteDevice net c id).2.find? id' = none := by
  have hfind := find?_deleteOne net c id id'
  have hsnd : (deleteDevice net c id).2 = (deleteOne net c id).2 := by
    unfold deleteDevice
    split <;> rename_i heq <;> rw [heq]
  rw [hsnd, hfind]
  split_ifs with h
  · exact .inr ⟨h.1, rfl⟩
  · exact .inl rfl

/-- A collection in which every `_id` finds what it found before, or nothing, holds
only documents that were there before. -/
theorem mem_of_find?_drops {c c' : Collection} {id : DeviceID}
    (h : ∀ id', c'.find? id' = c.find? id' ∨ id' = id ∧ c'.find? id' = none) {e : Doc}
    (he : e ∈ c'.docs) : e ∈ c.docs := by
  have hfe := Collection.find?_eq_some_iff.mpr ⟨he, rfl⟩
  rcases h e.id with h | ⟨-, h⟩
  · exact (Collection.find?_eq_some_iff.mp (h ▸ hfe)).1
  · rw [h] at hfe; cases hfe

/-- **What one call does to the documents**, by the command it sends: an upsert on
one `_id` (or nothing, when `makeAttrUpsert` refuses the batch), a write of the
group record, a removal of it, or a delete.  Every invariant below is one case of
this per command. -/
theorem Op.step_cases (net : Backend) (now : Int) (op : Op) (c : Collection) :
    (∃ id attrs, (op = .upsertAttributes id attrs ∨
        ∃ dev, op = .addDevice dev ∧ id = dev.id ∧ attrs = dev.upsertList) ∧
      (op.step net now c = c ∨ ∃ m, makeAttrUpsert attrs = .ok m ∧
        Evolves (.idEq id) (upsertUpdate m now) true c (op.step net now c))) ∨
    (∃ f g, ((∃ id, op = .updateDeviceGroup id g ∧ f = .idEq id) ∨
        ∃ ids, op = .updateDevicesGroup ids g ∧ f = .idIn ids) ∧
      Evolves f (setGroupUpdate g) false c (op.step net now c)) ∨
    (∃ f g, ((∃ id, op = .unsetDeviceGroup id g ∧ f = .and [.idEq id, groupValueFilter g]) ∨
        ∃ ids, op = .unsetDevicesGroup ids g ∧ f = .and [.idIn ids, groupValueFilter g]) ∧
      Evolves f unsetGroupUpdate false c (op.step net now c)) ∨
    ∃ id, op = .deleteDevice id ∧ ∀ id', (op.step net now c).find? id' = c.find? id' ∨
      id' = id ∧ (op.step net now c).find? id' = none := by
  cases op with
  | addDevice dev =>
      rw [step_addDevice]
      exact .inl ⟨_, _, .inr ⟨dev, rfl, rfl, rfl⟩, upsertAttributes_evolves net now c _ _⟩
  | upsertAttributes id attrs =>
      exact .inl ⟨id, attrs, .inl rfl, upsertAttributes_evolves net now c id attrs⟩
  | updateDeviceGroup id g =>
      exact .inr <| .inl ⟨_, g, .inl ⟨id, rfl, rfl⟩, updateDeviceGroup_evolves net c id g⟩
  | updateDevicesGroup ids g =>
      exact .inr <| .inl ⟨_, g, .inr ⟨ids, rfl, rfl⟩, updateDevicesGroup_evolves net c ids g⟩
  | unsetDeviceGroup id g =>
      exact .inr <| .inr <| .inl ⟨_, g, .inl ⟨id, rfl, rfl⟩, unsetDeviceGroup_evolves net c id g⟩
  | unsetDevicesGroup ids g =>
      exact .inr <| .inr <| .inl ⟨_, g, .inr ⟨ids, rfl, rfl⟩, unsetDevicesGroup_evolves net c ids g⟩
  | deleteDevice id => exact .inr <| .inr <| .inr ⟨id, rfl, deleteDevice_find? net c id⟩

/-! ### The update `UpsertAttributes` sends, field by field -/

section Upsert

variable {attrs : List DeviceAttribute} {m : List (String × Subtree)} {now : Int}

/-- The path of the `created` stamp, `attributes.system-created`. -/
def createdPath : Path := [dbDevAttributes, attrScopeSystem ++ "-" ++ attrNameCreated]

/-- The path of the `updated` stamp, `attributes.system-updated`. -/
def updatedPath : Path := [dbDevAttributes, attrScopeSystem ++ "-" ++ attrNameUpdated]

/-- **Every field the upsert sets** is a field of a submitted attribute's record,
with a single value at least three segments deep, or the `updated` stamp. -/
theorem upsertUpdate_set_cases (hm : makeAttrUpsert attrs = .ok m) {kv : String × Subtree}
    (hkv : kv ∈ (upsertUpdate m now).set) :
    (∃ a ∈ attrs, ∃ sub ∈ attrSubFields, ∃ x, kv = (makeAttrField a.name a.effScope [sub], single x)) ∨
      kv = (updatedField, (stamp attrNameUpdated now).encode) :=
  (mem_mapInsert hkv).imp_left fun hkv =>
    (makeAttrUpsertFrom_assignment hm kv hkv).resolve_left (List.not_mem_nil _)

theorem mem_upsertUpdate_updated (m : List (String × Subtree)) (now : Int) :
    (updatedField, (stamp attrNameUpdated now).encode) ∈ (upsertUpdate m now).set :=
  List.mem_append_right _ (List.mem_singleton_self _)

/-- **The upsert stamps `updated`** on every document it writes. -/
theorem upsertUpdate_has_updated {insert : Bool} {d e : Doc}
    (h : (upsertUpdate m now).apply insert d = .ok e) : e.has updatedPath = true := by
  have hget := Update.apply_get_of_set h (mem_upsertUpdate_updated m now) [dbDevAttributesScope]
  rw [fieldPath_updatedField] at hget
  exact Doc.has_of_get hget (List.prefix_append _ _)

/-- **On insert, the upsert stamps `created` with the clock reading.** -/
theorem upsertUpdate_createdAt {d e : Doc} (h : (upsertUpdate m now).apply true d = .ok e) (r : Path) :
    e.get (createdPath ++ r) = leafAt (stamp attrNameCreated now).encode r := by
  have := Update.apply_get_of_setOnInsert h (List.mem_singleton_self _) r
  rwa [fieldPath_createdField] at this

/-- **On a stored document the upsert leaves `created` alone**: the server refuses
an update that also writes at, above or below it. -/
theorem upsertUpdate_under_created {d e : Doc} (h : (upsertUpdate m now).apply false d = .ok e) :
    e.under createdPath = d.under createdPath := by
  have := Update.apply_under_of_setOnInsert h (List.mem_singleton_self _)
  rwa [fieldPath_createdField] at this

/-- **The upsert keeps a group record**: what it writes into the record puts a leaf
there, and nothing else it writes meets the record. -/
theorem upsertUpdate_has_group (hm : makeAttrUpsert attrs = .ok m) {insert : Bool} {d e : Doc}
    (h : (upsertUpdate m now).apply insert d = .ok e) (hd : d.has groupPath = true) :
    e.has groupPath = true := by
  refine Update.apply_has h hd (fun kv hkv hc => ?_) (fun _ kv hkv => ?_)
    fun _ hk => absurd hk (List.not_mem_nil _)
  · rcases upsertUpdate_set_cases hm hkv with ⟨a, -, sub, hsub, x, rfl⟩ | rfl
    · have hlen := (layoutPath_makeAttrField a.name a.effScope (dotFree_of_mem_attrSubFields hsub)).2
      refine ⟨[], x, ?_, rfl⟩
      rw [List.append_nil]
      exact hc.resolve_left fun hpre => absurd hpre.length_le (by simp only [groupPath]; simp; omega)
    · rw [fieldPath_updatedField] at hc
      exact absurd hc (by decide)
  · rw [List.mem_singleton.mp hkv, fieldPath_createdField]
    decide

end Upsert

/-! ### The timestamps -/

/-- **The `system-created` record of the document holds the clock reading `t`.** -/
def Doc.CreatedAt (d : Doc) (t : Int) : Prop :=
  ∀ r, d.get (createdPath ++ r) = leafAt (stamp attrNameCreated t).encode r

/-- **The document carries both timestamps**, `created` with some clock reading. -/
def Doc.Stamped (d : Doc) : Prop :=
  (∃ t, d.CreatedAt t) ∧ d.has updatedPath = true

theorem Doc.CreatedAt.of_under {d e : Doc} {t : Int} (h : e.under createdPath = d.under createdPath)
    (hd : d.CreatedAt t) : e.CreatedAt t :=
  fun r => (Doc.get_eq_of_under h (List.prefix_append _ _)).trans (hd r)

/-- The group setters leave both timestamps alone. -/
theorem setGroupUpdate_under {g : String} {insert : Bool} {d e : Doc}
    (h : (setGroupUpdate g).apply insert d = .ok e) {q : Path} (hq : ¬ Conflicting groupPath q) :
    e.under q = d.under q :=
  Update.apply_under h (fun kv hkv => by rwa [List.mem_singleton.mp hkv, fieldPath_dbDevAttributesGroup])
    (fun _ _ hkv => absurd hkv (List.not_mem_nil _)) fun _ hk => absurd hk (List.not_mem_nil _)

/-- **What a group write does to a stored document leaves `created` and `updated`
as they were.** -/
theorem group_write_keeps_stamps {u : Update} (hu : (∃ g, u = setGroupUpdate g) ∨ u = unsetGroupUpdate)
    {d e : Doc} (h : u.apply false d = .ok e) :
    e.under createdPath = d.under createdPath ∧ e.under updatedPath = d.under updatedPath := by
  rcases hu with ⟨g, rfl⟩ | rfl
  · exact ⟨setGroupUpdate_under h (by decide), setGroupUpdate_under h (by decide)⟩
  · rw [unsetGroupUpdate_apply] at h
    cases h
    exact ⟨unsetField_under d (by decide), unsetField_under d (by decide)⟩

/-- The documents after a group write carry both timestamps if the ones before did. -/
theorem stamped_of_group_write {f : Query} {u : Update} {c c' : Collection}
    (hu : (∃ g, u = setGroupUpdate g) ∨ u = unsetGroupUpdate) (hev : Evolves f u false c c')
    (hc : ∀ d ∈ c.docs, d.Stamped) : ∀ e ∈ c'.docs, e.Stamped :=
  hev.forall_docs hc (fun _ _ ⟨⟨t, ht⟩, hupd⟩ _ h =>
    have hs := group_write_keeps_stamps hu h
    ⟨⟨t, ht.of_under hs.1⟩, (Doc.has_eq_of_under hs.2).trans hupd⟩)
    fun h => absurd h Bool.false_ne_true

/-- **Every call keeps every device stamped.** -/
theorem stamped_step (net : Backend) (now : Int) (op : Op) {c : Collection}
    (hc : ∀ d ∈ c.docs, d.Stamped) : ∀ e ∈ (op.step net now c).docs, e.Stamped := by
  rcases op.step_cases net now c with
    ⟨_, _, -, h | ⟨m, -, hev⟩⟩ | ⟨_, g, -, hev⟩ | ⟨_, _, -, hev⟩ | ⟨_, -, hdel⟩
  · rwa [h]
  · exact hev.forall_docs hc (fun _ _ ⟨⟨t, ht⟩, _⟩ _ h =>
      ⟨⟨t, ht.of_under (upsertUpdate_under_created h)⟩, upsertUpdate_has_updated h⟩)
      fun _ _ _ h => ⟨⟨now, upsertUpdate_createdAt h⟩, upsertUpdate_has_updated h⟩
  · exact stamped_of_group_write (.inl ⟨g, rfl⟩) hev hc
  · exact stamped_of_group_write (.inr rfl) hev hc
  · exact fun e he => hc e (mem_of_find?_drops hdel he)

/-- **No call changes the `created` record of a device it does not delete.** -/
theorem created_step (net : Backend) (now : Int) (op : Op) {c : Collection} {id : DeviceID}
    {d e : Doc} (hd : c.find? id = some d) (he : (op.step net now c).find? id = some e) :
    e.under createdPath = d.under createdPath := by
  -- a write that keeps `created` on every document it updates keeps it on `id`'s
  have evolves : ∀ {f u ups}, Evolves f u ups c (op.step net now c) →
      (∀ d e, u.apply false d = .ok e → e.under createdPath = d.under createdPath) →
      e.under createdPath = d.under createdPath := fun hev hu => by
    obtain ⟨e', he', hmove⟩ := hev.find?_some hd
    obtain rfl : e' = e := Option.some.inj (he'.symm.trans he)
    rcases hmove with rfl | ⟨-, h⟩
    exacts [rfl, hu d e' h]
  rcases op.step_cases net now c with
    ⟨_, _, -, h | ⟨m, -, hev⟩⟩ | ⟨_, g, -, hev⟩ | ⟨_, _, -, hev⟩ | ⟨_, -, hdel⟩
  · rw [h, hd] at he; cases he; rfl
  · exact evolves hev fun _ _ h => upsertUpdate_under_created h
  · exact evolves hev fun _ _ h => (group_write_keeps_stamps (.inl ⟨g, rfl⟩) h).1
  · exact evolves hev fun _ _ h => (group_write_keeps_stamps (.inr rfl) h).1
  · rcases hdel id with h | ⟨-, h⟩ <;> rw [h] at he
    · rw [hd] at he; cases he; rfl
    · cases he

/-- **A device a call creates is stamped `created` with that call's clock reading.** -/
theorem created_insert (net : Backend) (now : Int) (op : Op) {c : Collection} {id : DeviceID}
    {e : Doc} (hd : c.find? id = none) (he : (op.step net now c).find? id = some e) :
    e.CreatedAt now := by
  -- the group writes never insert
  have update : ∀ {f u}, Evolves f u false c (op.step net now c) → e.CreatedAt now :=
    fun hev => absurd (hev.find?_none hd he).1 Bool.false_ne_true
  rcases op.step_cases net now c with
    ⟨_, _, -, h | ⟨m, -, hev⟩⟩ | ⟨_, _, -, hev⟩ | ⟨_, _, -, hev⟩ | ⟨_, -, hdel⟩
  · simp [h, hd] at he
  · exact upsertUpdate_createdAt (hev.find?_none hd he).2
  · exact update hev
  · exact update hev
  · rcases hdel id with h | ⟨-, h⟩ <;> simp [h, hd] at he

/-- **The `created` stamp of a device is never changed by any operation**, whatever
the arguments: every reachable device carries both stamps; a device created by a
call carries that call's clock reading; and over any run through which the device
exists, its `created` record stays as it was. -/
theorem created_stamp_kept :
    (∀ c, Reachable (fun _ => True) c → ∀ d ∈ c.docs, (∃ t, d.CreatedAt t) ∧ d.has updatedPath = true) ∧
    (∀ net now (op : Op) (c : Collection) id e, c.find? id = none →
      (op.step net now c).find? id = some e → e.CreatedAt now) ∧
    ∀ (c c' : Collection) id d, Relation.ReflTransGen (fun c c' => Step (fun _ => True) c c' ∧
        (c'.find? id).isSome) c c' → c.find? id = some d →
      ∃ e, c'.find? id = some e ∧ e.under createdPath = d.under createdPath := by
  refine ⟨fun c hc => Reachable.invariant (P := fun c => ∀ d ∈ c.docs, d.Stamped)
      (fun _ h => absurd h (List.not_mem_nil _))
      (fun net now op _ _ ih => stamped_step net now op ih) hc,
    fun net now op c id e hd he => created_insert net now op hd he, fun c c' id d hrun hd => ?_⟩
  induction hrun with
  | refl => exact ⟨d, hd, rfl⟩
  | tail _ hs ih =>
      obtain ⟨e, he, hed⟩ := ih
      obtain ⟨⟨net, now, op, -, rfl⟩, hsome⟩ := hs
      obtain ⟨e', he'⟩ := Option.isSome_iff_exists.mp hsome
      exact ⟨e', he', (created_step net now op he he').trans hed⟩

/-! ### The group attribute -/

/-- A value the store files as a group name: a non-empty string. -/
def Leaf.isGroupName : Leaf → Bool
  | .scalar (.str g) => g != ""
  | _ => false

/-- **An attribute the group invariant admits**: it follows the key convention, and
when it is the group attribute it carries a group name. -/
def DeviceAttribute.Valid (a : DeviceAttribute) : Prop :=
  KeyConvention a.effScope a.name ∧
    ((a.effScope, a.name) = (attrScopeSystem, attrNameGroup) → a.value.any Leaf.isGroupName = true)

instance decidableAttributeValid (a : DeviceAttribute) : Decidable a.Valid :=
  inferInstanceAs (Decidable (_ ∧ _))

/-- **The calls the group invariant admits**: valid attributes, and a group name
for the two setters. -/
def Op.Valid : Op → Prop
  | .addDevice dev => ∀ a ∈ dev.attributes, a.Valid
  | .upsertAttributes _ attrs => ∀ a ∈ attrs, a.Valid
  | .updateDeviceGroup _ newGroup => newGroup ≠ ""
  | .updateDevicesGroup _ group => group ≠ ""
  | _ => True

instance decidableOpValid : DecidablePred Op.Valid := fun op => by
  cases op <;> unfold Op.Valid <;> infer_instance

/-- The group attribute `AddDevice` appends is valid. -/
theorem groupAttribute_valid {g : String} (hg : g ≠ "") : (groupAttribute g).Valid :=
  ⟨(by decide : KeyConvention attrScopeSystem attrNameGroup),
    fun _ => by simpa [groupAttribute, Leaf.isGroupName] using hg⟩

/-- The attributes a valid call upserts are valid: `AddDevice` appends a group only
when the device has a non-empty one. -/
theorem upserted_valid {op : Op} (hop : op.Valid) {id : DeviceID} {attrs : List DeviceAttribute}
    (h : op = .upsertAttributes id attrs ∨
      ∃ dev, op = .addDevice dev ∧ id = dev.id ∧ attrs = dev.upsertList) :
    ∀ a ∈ attrs, a.Valid := by
  rcases h with rfl | ⟨dev, rfl, -, rfl⟩
  · exact hop
  · unfold Device.upsertList
    split_ifs with hg
    · exact fun a ha => (List.mem_append.mp ha).elim (hop a) fun ha =>
        List.mem_singleton.mp ha ▸ groupAttribute_valid hg
    · exact hop

/-- **The group invariant of one document**: its group attribute is absent, or
carries a non-empty string. -/
def Doc.GroupOk (d : Doc) : Prop :=
  d.has groupPath = true → ∃ g, g ≠ "" ∧ d.get groupValuePath = some (.scalar (.str g))

theorem Doc.GroupOk.of_value {d : Doc} {v : Leaf} (h : d.get groupValuePath = some v)
    (hv : v.isGroupName = true) : d.GroupOk := by
  match v, hv with
  | .scalar (.str g), hv => exact fun _ => ⟨g, by simpa [Leaf.isGroupName] using hv, h⟩

theorem Doc.GroupOk.of_under {d e : Doc} (h : e.under groupPath = d.under groupPath) (hd : d.GroupOk) :
    e.GroupOk := fun he =>
  let ⟨g, hg, hv⟩ := hd ((Doc.has_eq_of_under h).symm.trans he)
  ⟨g, hg, (Doc.get_eq_of_under h (List.prefix_append _ _)).trans hv⟩

/-- **The merge leaves a value with a property at a pair** when the prior entry had
one or an attribute of the pair is merged, and every such attribute carries one. -/
theorem mergeAttrs_value {Q : Leaf → Prop} {p : String × String} :
    ∀ {P : AttrMap} {attrs : List DeviceAttribute},
      (∀ a ∈ attrs, (a.effScope, a.name) = p → ∃ v, a.value = some v ∧ Q v) →
      ((∃ v, (P p).value = some v ∧ Q v) ∨ ∃ a ∈ attrs, (a.effScope, a.name) = p) →
      ∃ v, (mergeAttrs P attrs p).value = some v ∧ Q v
  | _, [], _, h => h.resolve_right fun ⟨_, ha, _⟩ => absurd ha (List.not_mem_nil _)
  | P, a :: rest, hall, h => by
      rw [mergeAttrs]
      refine mergeAttrs_value (fun b hb => hall b (List.mem_cons_of_mem _ hb)) ?_
      by_cases ha : (a.effScope, a.name) = p
      · obtain ⟨v, hv, hQ⟩ := hall a (List.mem_cons_self _ _) ha
        subst ha
        exact .inl ⟨v, by simp [Entry.merge, hv], hQ⟩
      · rcases h with h | ⟨b, hb, hbp⟩
        · exact .inl (by rwa [Function.update_noteq (Ne.symm ha)])
        · rcases List.mem_cons.mp hb with rfl | hb
          · exact absurd hbp ha
          · exact .inr ⟨b, hb, hbp⟩

/-- **A valid upsert keeps the group invariant**: it writes the group's value only
as a group name, and nothing else it writes meets the group record. -/
theorem upsertUpdate_groupOk {attrs : List DeviceAttribute} {m : List (String × Subtree)} {now : Int}
    {insert : Bool} {d e : Doc} (hm : makeAttrUpsert attrs = .ok m) (hvalid : ∀ a ∈ attrs, a.Valid)
    (h : (upsertUpdate m now).apply insert d = .ok e) (hd : d.GroupOk) : e.GroupOk := by
  have hconv : ∀ a ∈ attrs, KeyConvention a.effScope a.name := fun a ha => (hvalid a ha).1
  by_cases hgrp : ∃ a ∈ attrs, (a.effScope, a.name) = (attrScopeSystem, attrNameGroup)
  · have hentry := (upsertUpdate_entry hm hconv h (s := attrScopeSystem) (n := attrNameGroup) (by decide)
      (by decide) fun _ => by decide).trans
      (makeAttrUpsert_tracks hm hconv (fun _ => d.entry (attrScopeSystem ++ "-" ++ attrNameGroup))
        (by decide)).symm
    have hnamed : ∀ a ∈ attrs, (a.effScope, a.name) = (attrScopeSystem, attrNameGroup) →
        ∃ v, a.value = some v ∧ v.isGroupName = true := fun a ha hp => by
      have := (hvalid a ha).2 hp
      cases hval : a.value with
      | none => simp [hval] at this
      | some v => exact ⟨v, rfl, by simpa [hval] using this⟩
    obtain ⟨v, hv, hname⟩ := mergeAttrs_value hnamed (.inr hgrp)
    exact Doc.GroupOk.of_value ((congrArg Entry.value hentry).trans hv) hname
  · refine Doc.GroupOk.of_under (Update.apply_under h (fun kv hkv => ?_) (fun _ kv hkv => ?_)
      fun _ hk => absurd hk (List.not_mem_nil _)) hd
    · rcases upsertUpdate_set_cases hm hkv with ⟨a, ha, sub, hsub, x, rfl⟩ | rfl
      · rw [fieldPath_makeAttrField_of_convention (hconv a ha) (dotFree_of_mem_attrSubFields hsub)]
        exact not_conflicting_stamp (hconv a ha) fun hp => hgrp ⟨a, ha, hp⟩
      · rw [fieldPath_updatedField]
        decide
    · rw [List.mem_singleton.mp hkv, fieldPath_createdField]
      decide

theorem setGroupUpdate_has_group {g : String} {insert : Bool} {d e : Doc}
    (h : (setGroupUpdate g).apply insert d = .ok e) : e.has groupPath = true :=
  Doc.has_of_get (setGroupUpdate_get h [dbDevAttributesScope]) (List.prefix_append _ _)

/-- **Every valid call keeps the group invariant of every device.** -/
theorem groupOk_step (net : Backend) (now : Int) {op : Op} (hop : op.Valid) {c : Collection}
    (hc : ∀ d ∈ c.docs, d.GroupOk) : ∀ e ∈ (op.step net now c).docs, e.GroupOk := by
  rcases op.step_cases net now c with
    ⟨_, _, hup, h | ⟨m, hm, hev⟩⟩ | ⟨_, g, hset, hev⟩ | ⟨_, _, -, hev⟩ | ⟨_, -, hdel⟩
  · rwa [h]
  · have hvalid := upserted_valid hop hup
    exact hev.forall_docs hc (fun _ _ hd _ h => upsertUpdate_groupOk hm hvalid h hd)
      fun _ _ _ h => upsertUpdate_groupOk hm hvalid h fun hh => absurd hh Bool.false_ne_true
  · have hg : g ≠ "" := by rcases hset with ⟨_, rfl, -⟩ | ⟨_, rfl, -⟩ <;> exact hop
    exact hev.forall_docs hc (fun _ _ _ _ h => Doc.GroupOk.of_value
      (setGroupUpdate_get h [dbDevAttributesValue]) (by simpa [Leaf.isGroupName] using hg))
      fun h => absurd h Bool.false_ne_true
  · refine hev.forall_docs hc (fun d _ _ _ h => ?_) fun h => absurd h Bool.false_ne_true
    rw [unsetGroupUpdate_apply] at h
    cases h
    exact fun hh => absurd ((unsetField_has_self groupPath d).symm.trans hh) Bool.false_ne_true
  · exact fun e he => hc e (mem_of_find?_drops hdel he)

/-! ### What `ListGroups` returns -/

/-- The group value a device of the invariant reports to `Distinct`: its group name. -/
theorem distinctValues_of_groupOk {d : Doc} (hd : d.GroupOk) (hhas : d.has groupValuePath = true) :
    ∃ g, g ≠ "" ∧ d.get groupValuePath = some (.scalar (.str g)) ∧
      distinctValues d groupValuePath = [.scalar (.str g)] := by
  obtain ⟨f, hf, hpre⟩ := Doc.has_iff.mp hhas
  obtain ⟨g, hg, hv⟩ := hd (Doc.has_iff.mpr ⟨f, hf, (List.prefix_append _ _).trans hpre⟩)
  exact ⟨g, hg, hv, by simp [distinctValues, hv]⟩

/-- **The values `Distinct` reports for the group's value**, when every device keeps
the invariant: the group names the devices hold. -/
theorem mem_distinct_groups {c : Collection} (hc : ∀ d ∈ c.docs, d.GroupOk) (v : DistinctValue) :
    v ∈ ((select c.docs (.existsField dbDevAttributesGroupValue true)).flatMap
        (distinctValues · groupValuePath)).dedup ↔
      ∃ g, v = .scalar (.str g) ∧ g ≠ "" ∧ ∃ d ∈ c.docs, d.get groupValuePath = some (.scalar (.str g)) := by
  simp only [List.mem_dedup, List.mem_flatMap, select, List.mem_filter, Query.matches,
    fieldPath_dbDevAttributesGroupValue, beq_true]
  constructor
  · rintro ⟨d, ⟨hd, hhas⟩, hv⟩
    obtain ⟨g, hg, hget, hdv⟩ := distinctValues_of_groupOk (hc d hd) hhas
    rw [hdv, List.mem_singleton] at hv
    exact ⟨g, hv, hg, d, hd, hget⟩
  · rintro ⟨g, rfl, -, d, hd, hget⟩
    have hhas := Doc.has_of_get hget (List.prefix_refl _)
    obtain ⟨g', -, hget', hdv⟩ := distinctValues_of_groupOk (hc d hd) hhas
    obtain rfl : g' = g := by simpa [hget] using hget'.symm
    exact ⟨d, ⟨hd, hhas⟩, by simp [hdv]⟩

/-- **In every state valid calls reach, every device's group attribute is absent or a
non-empty string; `ListGroups` returns the names the devices hold, each once and
with no empty name; and a device has a group (`GetDevices`' `HasGroup` predicate)
exactly when its group value is one of those names.** -/
theorem groups_listed {c : Collection} (hc : Reachable Op.Valid c) :
    (∀ d ∈ c.docs, d.GroupOk) ∧ ∃ gs, listGroups .healthy c = .ok gs ∧ gs.Nodup ∧
      (∀ g, g ∈ gs ↔ g ≠ "" ∧ ∃ d ∈ c.docs, d.get groupValuePath = some (.scalar (.str g))) ∧
      ∀ d ∈ c.docs, (⟨0, 0, [], none, some true, ""⟩ : ListQuery).Selects d = true ↔
        ∃ g ∈ gs, d.get groupValuePath = some (.scalar (.str g)) := by
  have hinv : ∀ d ∈ c.docs, d.GroupOk := Reachable.invariant (P := fun c => ∀ d ∈ c.docs, d.GroupOk)
    (fun _ h => absurd h (List.not_mem_nil _)) (fun net now _ _ hop ih => groupOk_step net now hop ih) hc
  have hvs := mem_distinct_groups hinv
  obtain ⟨gs, hgs, heq⟩ := mapM_eq_ok_of_inverse (f := asGroupName)
    (g := fun s => DistinctValue.scalar (.str s)) (fun _ => rfl) fun v hv =>
    let ⟨g, hg, _⟩ := (hvs v).mp hv
    ⟨g, hg⟩
  have hmem : ∀ g, g ∈ gs ↔ g ≠ "" ∧ ∃ d ∈ c.docs, d.get groupValuePath = some (.scalar (.str g)) := by
    intro g
    rw [← show (DistinctValue.scalar (.str g) ∈ gs.map fun s => .scalar (.str s)) ↔ g ∈ gs by simp,
      ← heq, hvs]
    simp
  refine ⟨hinv, gs, ?_, ?_, hmem, fun d hd => ?_⟩
  · simp only [listGroups, distinct, Backend.healthy, Query.check]
    exact hgs
  · exact (heq ▸ List.nodup_dedup _ : (gs.map fun s => DistinctValue.scalar (.str s)).Nodup).of_map _
  · simp only [ListQuery.Selects, beq_self_eq_true, Bool.true_or, Option.all_some, beq_true,
      Bool.true_and, List.all_nil, Bool.and_true]
    constructor
    · intro hhas
      obtain ⟨g, hg, hget⟩ := hinv d hd hhas
      exact ⟨g, (hmem g).mpr ⟨hg, d, hd, hget⟩, hget⟩
    · rintro ⟨g, -, hget⟩
      exact Doc.has_of_get hget (List.prefix_append _ _)

/-- The device `a`, added to the group `g`. -/
theorem groups_listed_a :
    Reachable Op.Valid ((Op.addDevice ⟨"a", [], "g"⟩).step .healthy 0 Collection.empty) ∧
    (∀ d ∈ ((Op.addDevice ⟨"a", [], "g"⟩).step .healthy 0 Collection.empty).docs, d.GroupOk) ∧
      ∃ gs, listGroups .healthy ((Op.addDevice ⟨"a", [], "g"⟩).step .healthy 0 Collection.empty) = .ok gs ∧
        gs.Nodup ∧
        (∀ g, g ∈ gs ↔ g ≠ "" ∧ ∃ d ∈ ((Op.addDevice ⟨"a", [], "g"⟩).step .healthy 0 Collection.empty).docs,
          d.get groupValuePath = some (.scalar (.str g))) ∧
        ∀ d ∈ ((Op.addDevice ⟨"a", [], "g"⟩).step .healthy 0 Collection.empty).docs,
          (⟨0, 0, [], none, some true, ""⟩ : ListQuery).Selects d = true ↔
            ∃ g ∈ gs, d.get groupValuePath = some (.scalar (.str g)) :=
  ⟨.single ⟨.healthy, 0, _, by decide, rfl⟩, groups_listed (.single ⟨.healthy, 0, _, by decide, rfl⟩)⟩

/-- **Without the restriction on arguments, `ListGroups` fails**: one call of
`UpsertAttributes` with a number as the group makes it panic, and an empty group
name given to `UpdateDeviceGroup` is listed as a group. -/
theorem listGroups_unrestricted :
    Reachable (fun _ => True) ((Op.upsertAttributes "a"
      [⟨attrNameGroup, none, some (.scalar (.num 5)), attrScopeSystem⟩]).step .healthy 0 Collection.empty) ∧
    listGroups .healthy ((Op.upsertAttributes "a"
      [⟨attrNameGroup, none, some (.scalar (.num 5)), attrScopeSystem⟩]).step .healthy 0 Collection.empty) =
        .error (.panic stringAssertion) ∧
    listGroups .healthy ((Op.updateDeviceGroup "a" "").step .healthy 0
      ((Op.addDevice ⟨"a", [], ""⟩).step .healthy 0 Collection.empty)) = .ok [""] :=
  ⟨.single ⟨.healthy, 0, _, trivial, rfl⟩, by decide, by decide⟩

/-! ### Who takes a group away -/

/-- **Only a delete, or an unset whose expected name the device's group value holds,
takes a device's group away**: in any state, on any store and with any arguments,
a call after which the device `id` no longer has a group record, though it had one
before, deletes `id`, or unsets the group of `id` with a name `id`'s group value
held (MongoDB equality) just before the call. -/
theorem group_cleared_only_by {net : Backend} {now : Int} {op : Op} {c : Collection} {id : DeviceID}
    (hg : (c.find? id).any (·.has groupPath) = true)
    (hgone : ((op.step net now c).find? id).any (·.has groupPath) = false) :
    op = .deleteDevice id ∨ (∃ g, op = .unsetDeviceGroup id g ∧ (c.find? id).any (·.InGroup g) = true) ∨
      ∃ ids g, op = .unsetDevicesGroup ids g ∧ id ∈ ids ∧ (c.find? id).any (·.InGroup g) = true := by
  obtain ⟨d, hd⟩ : ∃ d, c.find? id = some d := by
    cases h : c.find? id with
    | none => rw [h] at hg; cases hg
    | some d => exact ⟨d, rfl⟩
  have hdg : d.has groupPath = true := by rwa [hd] at hg
  have hid : d.id = id := (Collection.find?_eq_some_iff.mp hd).2
  -- the document after a write that moved it, and whether the write matched it
  have moved : ∀ {f u ups}, Evolves f u ups c (op.step net now c) →
      f.matches d = true ∧ ∃ e, u.apply false d = .ok e ∧ e.has groupPath = false := fun hev => by
    obtain ⟨e, he, hmove⟩ := hev.find?_some hd
    rw [he] at hgone
    rcases hmove with rfl | ⟨hm, h⟩
    · rw [Option.any_some, hdg] at hgone; cases hgone
    · exact ⟨hm, e, h, hgone⟩
  rcases op.step_cases net now c with
    ⟨_, _, -, h | ⟨m, hm, hev⟩⟩ | ⟨_, _, -, hev⟩ | ⟨_, g, hunset, hev⟩ | ⟨id', rfl, hdel⟩
  · rw [h, hg] at hgone; cases hgone
  · obtain ⟨-, e, h, he⟩ := moved hev
    rw [upsertUpdate_has_group hm h hdg] at he; cases he
  · obtain ⟨-, e, h, he⟩ := moved hev
    rw [setGroupUpdate_has_group h] at he; cases he
  · obtain ⟨hm, -⟩ := moved hev
    rcases hunset with ⟨id', rfl, rfl⟩ | ⟨ids, rfl, rfl⟩ <;>
      simp only [Query.matches_and, List.all_cons, List.all_nil, Bool.and_true, Query.matches_idEq,
        Query.matches_idIn, matches_groupValueFilter, Bool.and_eq_true, decide_eq_true_eq] at hm
    · exact .inr (.inl ⟨g, by rw [← hid, hm.1], by rw [hd, Option.any_some, hm.2]⟩)
    · exact .inr (.inr ⟨ids, g, rfl, hid ▸ hm.1, by rw [hd, Option.any_some, hm.2]⟩)
  · rcases hdel id with h | ⟨rfl, -⟩
    · rw [h, hg] at hgone; cases hgone
    · exact .inl rfl

/-- The device `a` of the group `g` loses its group to `UnsetDeviceGroup("a", "g")`. -/
theorem group_cleared_only_by_unset :
    (((Op.addDevice ⟨"a", [], "g"⟩).step .healthy 0 Collection.empty).find? "a").any
        (·.has groupPath) = true ∧
      (((Op.unsetDeviceGroup "a" "g").step .healthy 0
        ((Op.addDevice ⟨"a", [], "g"⟩).step .healthy 0 Collection.empty)).find? "a").any
        (·.has groupPath) = false ∧
      (Op.unsetDeviceGroup "a" "g" = .deleteDevice "a" ∨
        (∃ g, Op.unsetDeviceGroup "a" "g" = .unsetDeviceGroup "a" g ∧
          (((Op.addDevice ⟨"a", [], "g"⟩).step .healthy 0 Collection.empty).find? "a").any
            (·.InGroup g) = true) ∨
        ∃ ids g, Op.unsetDeviceGroup "a" "g" = .unsetDevicesGroup ids g ∧ "a" ∈ ids ∧
          (((Op.addDevice ⟨"a", [], "g"⟩).step .healthy 0 Collection.empty).find? "a").any
            (·.InGroup g) = true) :=
  ⟨by decide, by decide, @group_cleared_only_by .healthy 0 (.unsetDeviceGroup "a" "g")
    ((Op.addDevice ⟨"a", [], "g"⟩).step .healthy 0 Collection.empty) "a" (by decide) (by decide)⟩

/-- **An unset clears a group value that only holds its expected name**: the device
`a`, whose group value is the array `["g", "h"]` and not `"g"`, loses its group to
`UnsetDeviceGroup("a", "g")`. -/
theorem unsetDeviceGroup_clears_array :
    (((Op.upsertAttributes "a" [⟨attrNameGroup, none, some (.array [.str "g", .str "h"]),
        attrScopeSystem⟩]).step .healthy 0 Collection.empty).find? "a").bind (·.get groupValuePath) =
        some (.array [.str "g", .str "h"]) ∧
      (((Op.unsetDeviceGroup "a" "g").step .healthy 0 ((Op.upsertAttributes "a"
        [⟨attrNameGroup, none, some (.array [.str "g", .str "h"]), attrScopeSystem⟩]).step .healthy 0
          Collection.empty)).find? "a").any (·.has groupPath) = false := by
  decide

end DeviceInventory
