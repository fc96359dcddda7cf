import DeviceInventory.Store.Inventory

/-!
# Calls that fail, and calls on other devices

Every write of the store issues one driver command (`UpdateOne` with or without
upsert, `UpdateMany` or `DeleteOne`), filtered by the `_id`s its arguments name.
Two things follow for runs of calls from any number of clients, interleaved in any
order, on a server that fails whichever commands it fails.

A call whose command the server fails may still have written some of the
documents it writes, each whole: then it did what the same call on those devices
does (`Op.salvage`), and the run is the run of these salvaged calls on a server
that fails nothing, which refines the inventory's run of them.  And the document of
a device evolves by the calls that name it alone: seen from one `_id`, each call
is a function of that device's document (`Op.onDoc`), so the device reads the same
after any two runs that deliver the calls naming it in the same order, however the
calls on other devices are interleaved with them.  Last, no call removes an
attribute record other than the group's, except by deleting the whole device.

## Main definitions

* `Op.command` — the driver command a call issues.
* `Op.targets` — the devices a call names.
* `Op.salvage` — what a call whose command failed did all the same.
* `Op.runOn` — a run in which each call meets the server in its own state.
* `Op.salvaged` — the calls such a run carried out, failed calls salvaged.
* `Op.onDoc`, `Op.runDoc` — a call, and a run, seen from the document of one device.

## Main statements

* `Op.step_salvage` — a call, failed or not, does what its salvaged call does on a
  server that fails nothing.
* `runOn_salvaged` — a run on a failing server is the run of its salvaged calls on
  a server that does not fail.
* `store_refines_inventory_of_failures` — such a run refines the inventory's run
  of the salvaged calls.
* `Op.step_find?` — one call, seen from one device, is `Op.onDoc`.
* `device_document_of_own_calls` — every device's document is built from nothing
  by the calls that name it, in order.
* `getDevice_interleavings` — `GetDevice` reads the same after two runs that agree
  on the calls naming the device.
* `records_kept` — a record other than the group's outlives every run that does
  not delete its device.
-/

namespace DeviceInventory

/-- The driver command a call issues. -/
def Op.command : Op → Call
  | .addDevice _ | .upsertAttributes _ _ | .updateDeviceGroup _ _ => .updateOne
  | .updateDevicesGroup _ _ | .unsetDeviceGroup _ _ | .unsetDevicesGroup _ _ => .updateMany
  | .deleteDevice _ => .deleteOne

/-- The devices a call names. -/
def Op.targets : Op → List DeviceID
  | .addDevice dev => [dev.id]
  | .upsertAttributes id _ | .updateDeviceGroup id _ | .unsetDeviceGroup id _ | .deleteDevice id => [id]
  | .updateDevicesGroup ids _ | .unsetDevicesGroup ids _ => ids

/-! ### A call whose command fails -/

/-- **What a call did when its command failed**: the same call on the devices its
command wrote before failing, or nothing when it wrote none of them.  A call whose
command the server carries out is itself. -/
def Op.salvage (net : Backend) : Op → Option Op
  | .updateDevicesGroup ids g => some (.updateDevicesGroup (ids.filter (net.wrote .updateMany)) g)
  | .unsetDevicesGroup ids g => some (.unsetDevicesGroup (ids.filter (net.wrote .updateMany)) g)
  | op => if op.targets.all (net.wrote op.command) then some op else none

section Failures

variable {net : Backend}

theorem Op.salvage_of_delivered {op : Op} (h : net.fails op.command = none) : op.salvage net = some op := by
  have hw := Backend.wrote_of_delivered h
  cases op <;> simp_all [Op.salvage, Op.command, Op.targets]

/-- A salvaged call carries the arguments of the call it comes from, with fewer ids. -/
theorem Op.salvage_args {op op' : Op} (h : op.salvage net = some op') :
    (op.Valid → op'.Valid) ∧ (op.Ordinary → op'.Ordinary) := by
  cases op <;> simp only [Op.salvage, Option.ite_none_right_eq_some, Option.some.injEq] at h <;>
    obtain ⟨-, rfl⟩ := h <;> exact ⟨id, id⟩

theorem Op.step_updateDeviceGroup (net : Backend) (now : Int) (id : DeviceID) (g : String) (c : Collection) :
    (Op.updateDeviceGroup id g).step net now c =
      (updateOne net c (.idEq id) (setGroupUpdate g) (setGroupUpdate_shaped g)).2 := by
  simp only [Op.step, DeviceInventory.updateDeviceGroup]
  split <;> rename_i heq <;> rw [heq]

theorem Op.step_updateDevicesGroup (net : Backend) (now : Int) (ids : List DeviceID) (g : String)
    (c : Collection) :
    (Op.updateDevicesGroup ids g).step net now c =
      (updateMany net c (.idIn ids) (setGroupUpdate g) (setGroupUpdate_shaped g)).2 := by
  simp only [Op.step, DeviceInventory.updateDevicesGroup]
  split <;> rename_i heq <;> rw [heq]

theorem Op.step_unsetDeviceGroup (net : Backend) (now : Int) (id : DeviceID) (g : String) (c : Collection) :
    (Op.unsetDeviceGroup id g).step net now c =
      (updateMany net c (.and [.idEq id, groupValueFilter g]) unsetGroupUpdate unsetGroupUpdate_shaped).2 := by
  simp only [Op.step, DeviceInventory.unsetDeviceGroup]
  split <;> rename_i heq <;> rw [heq]

theorem Op.step_unsetDevicesGroup (net : Backend) (now : Int) (ids : List DeviceID) (g : String)
    (c : Collection) :
    (Op.unsetDevicesGroup ids g).step net now c =
      (updateMany net c (.and [.idIn ids, groupValueFilter g]) unsetGroupUpdate unsetGroupUpdate_shaped).2 := by
  simp only [Op.step, DeviceInventory.unsetDevicesGroup]
  split <;> rename_i heq <;> rw [heq]

theorem Op.step_deleteDevice (net : Backend) (now : Int) (id : DeviceID) (c : Collection) :
    (Op.deleteDevice id).step net now c = (deleteOne net c id).2 := by
  simp only [Op.step, DeviceInventory.deleteDevice]
  split <;> rename_i heq <;> rw [heq]

/-- The collection after `UpsertAttributes` is the one after its upsert. -/
theorem upsertAttributes_snd (net : Backend) (now : Int) (c : Collection) (id : DeviceID)
    {attrs : List DeviceAttribute} {m : List (String × Subtree)} (hm : makeAttrUpsert attrs = .ok m) :
    (upsertAttributes net now c id attrs).2 = (upsertOne net c id (upsertUpdate m now) (upsertUpdate_shaped hm now)).2 := by
  unfold upsertAttributes
  split
  · rename_i e he; rw [hm] at he; cases he
  · rename_i m' hm'
    obtain rfl : m' = m := Except.ok.inj (hm'.symm.trans hm)
    split <;> rename_i heq <;> rw [heq]

theorem upsertAttributes_of_fails {e : MongoError} (h : net.fails .updateOne = some e) (now : Int)
    (c : Collection) (id : DeviceID) (attrs : List DeviceAttribute) :
    (upsertAttributes net now c id attrs).2 =
      if net.applied .updateOne id then (upsertAttributes .healthy now c id attrs).2 else c := by
  cases hm : makeAttrUpsert attrs with
  | error e' =>
      have : ∀ net : Backend, (upsertAttributes net now c id attrs).2 = c := fun net => by
        unfold upsertAttributes
        split
        · rfl
        · rename_i m' hm'; rw [hm] at hm'; cases hm'
      simp only [this, ite_self]
  | ok m =>
      rw [upsertAttributes_snd net now c id hm, upsertAttributes_snd .healthy now c id hm, upsertOne_of_fails h]
      rfl

/-- **A call whose command the server carries out does what it does on a server
that fails nothing.** -/
theorem Op.step_of_delivered {op : Op} (h : net.fails op.command = none) (now : Int) (c : Collection) :
    op.step net now c = op.step .healthy now c := by
  cases op with
  | addDevice dev =>
      simp only [Op.step, DeviceInventory.addDevice, DeviceInventory.upsertAttributes, upsertOne_of_delivered h]
  | upsertAttributes id attrs =>
      simp only [Op.step, DeviceInventory.upsertAttributes, upsertOne_of_delivered h]
  | updateDeviceGroup id g => simp only [Op.step, DeviceInventory.updateDeviceGroup, updateOne_of_delivered h]
  | updateDevicesGroup ids g =>
      simp only [Op.step, DeviceInventory.updateDevicesGroup, updateMany_of_delivered h]
  | unsetDeviceGroup id g => simp only [Op.step, DeviceInventory.unsetDeviceGroup, updateMany_of_delivered h]
  | unsetDevicesGroup ids g =>
      simp only [Op.step, DeviceInventory.unsetDevicesGroup, updateMany_of_delivered h]
  | deleteDevice id => simp only [Op.step, DeviceInventory.deleteDevice, deleteOne_of_delivered h]

/-- **A call whose command failed did what its salvaged call does on a server that
fails nothing**, or nothing. -/
theorem Op.step_of_fails {op : Op} {e : MongoError} (h : net.fails op.command = some e) (now : Int)
    (c : Collection) : op.step net now c = ((op.salvage net).map fun op' => op'.step .healthy now c).getD c := by
  have hw := Backend.wrote_of_fails h
  cases op <;> simp only [Op.command] at h hw
  case addDevice dev =>
      rw [step_addDevice]
      simp only [Op.salvage, Op.targets, Op.command, List.all_cons, List.all_nil, Bool.and_true, hw]
      by_cases ha : net.applied .updateOne dev.id
      · simp only [ha, if_true, Option.map_some', Option.getD_some, step_addDevice]
        exact (upsertAttributes_of_fails h now c _ _).trans (if_pos ha)
      · simp only [ha, Bool.false_eq_true, if_false, Option.map_none', Option.getD_none]
        exact (upsertAttributes_of_fails h now c _ _).trans (if_neg ha)
  case upsertAttributes id attrs =>
      simp only [Op.salvage, Op.targets, Op.command, List.all_cons, List.all_nil, Bool.and_true, hw]
      by_cases ha : net.applied .updateOne id
      · simp only [ha, if_true, Option.map_some', Option.getD_some]
        exact (upsertAttributes_of_fails h now c _ _).trans (if_pos ha)
      · simp only [ha, Bool.false_eq_true, if_false, Option.map_none', Option.getD_none]
        exact (upsertAttributes_of_fails h now c _ _).trans (if_neg ha)
  case updateDeviceGroup id g =>
      simp only [Op.step_updateDeviceGroup, updateOne_of_fails h, find?_idEq, Op.salvage, Op.targets,
        Op.command, List.all_cons, List.all_nil, Bool.and_true, hw]
      cases hf : c.find? id with
      | none =>
          have hrun := runUpdateOne_of_none ((find?_idEq c id).trans hf) (setGroupUpdate g) (setGroupUpdate_shaped g)
          split_ifs <;> simp [Op.step_updateDeviceGroup, updateOne_healthy_eq_run, hrun]
      | some d =>
          obtain rfl := (Collection.find?_eq_some_iff.mp hf).2
          by_cases ha : net.applied .updateOne d.id <;>
            simp [ha, Op.step_updateDeviceGroup, updateOne_healthy_eq_run]
  case updateDevicesGroup ids g =>
      simp only [Op.step_updateDevicesGroup, updateMany_of_fails h, Op.salvage, Option.map_some',
        Option.getD_some, updateMany_healthy_eq_run]
      exact runUpdateMany_congr (fun d => by simp [hw]) rfl c _ _
  case unsetDeviceGroup id g =>
      simp only [Op.step_unsetDeviceGroup, updateMany_of_fails h, Op.salvage, Op.targets, Op.command,
        List.all_cons, List.all_nil, Bool.and_true, hw]
      by_cases ha : net.applied .updateMany id
      · simp only [ha, if_true, Option.map_some', Option.getD_some, Op.step_unsetDeviceGroup,
          updateMany_healthy_eq_run]
        exact runUpdateMany_congr (fun d => by by_cases hd : d.id = id <;> simp [hd, ha]) rfl c _ _
      · simp only [ha, Bool.false_eq_true, if_false, Option.map_none', Option.getD_none]
        exact runUpdateMany_of_none (fun d _ => by by_cases hd : d.id = id <;> simp [hd, ha]) _ _ _
  case unsetDevicesGroup ids g =>
      simp only [Op.step_unsetDevicesGroup, updateMany_of_fails h, Op.salvage, Option.map_some',
        Option.getD_some, updateMany_healthy_eq_run]
      refine runUpdateMany_congr (fun d => ?_) rfl c _ _
      simp only [Query.matches_and, List.all_cons, List.all_nil, Query.matches_idIn, hw, List.mem_filter]
      cases net.applied .updateMany d.id <;> simp
  case deleteDevice id =>
      by_cases ha : net.applied .deleteOne id <;>
        simp [Op.salvage, Op.targets, Op.command, hw, ha, Op.step_deleteDevice, deleteOne_of_fails h]

/-- **One call, failed or not, does what its salvaged call does on a server that
fails nothing**, or nothing. -/
theorem Op.step_salvage (net : Backend) (now : Int) (op : Op) (c : Collection) :
    op.step net now c = ((op.salvage net).map fun op' => op'.step .healthy now c).getD c := by
  cases h : net.fails op.command with
  | none => rw [Op.salvage_of_delivered h, Op.step_of_delivered h]; rfl
  | some e => exact Op.step_of_fails h now c

end Failures

/-! ### Runs of many clients on a server that fails -/

/-- **A run of calls from any number of clients**, in the order the server applied
them: each call meets the server in its own state, failing or not, with its own
clock reading. -/
def Op.runOn : List (Backend × Op × Int) → Collection → Collection
  | [], c => c
  | (net, op, now) :: calls, c => Op.runOn calls (op.step net now c)

/-- The calls a run of the server carried out: each call whose command did not
fail, and of each call whose command failed, what it did all the same. -/
def Op.salvaged : List (Backend × Op × Int) → List (Op × Int)
  | [] => []
  | (net, op, now) :: calls =>
      match op.salvage net with
      | some op' => (op', now) :: Op.salvaged calls
      | none => Op.salvaged calls

example : Op.salvaged [(.healthy, .deleteDevice "a", 0),
    (.interrupted .updateMany (.backend "timeout") ["b"], .updateDevicesGroup ["b", "c"] "h", 1),
    (.failing .updateOne (.backend "timeout"), .updateDeviceGroup "b" "g", 2)] =
      [(.deleteDevice "a", 0), (.updateDevicesGroup ["b"] "h", 1)] := by decide

/-- **A run on a server that fails is a run of the store's own calls on a server
that does not**: each call whose command failed counts as nothing, or as the same
call on the devices its command wrote before failing. -/
theorem runOn_salvaged (calls : List (Backend × Op × Int)) (c : Collection) :
    Op.runOn calls c = Op.run .healthy (Op.salvaged calls) c := by
  induction calls generalizing c with
  | nil => rfl
  | cons call calls ih =>
      obtain ⟨net, op, now⟩ := call
      rw [Op.runOn, Op.step_salvage, ih]
      cases hs : op.salvage net <;> simp only [Op.salvaged, hs, Op.run, Option.map_none', Option.getD_none,
        Option.map_some', Option.getD_some]

theorem Op.runOn_refines : ∀ (calls : List (Backend × Op × Int)) {c : Collection} {S : Inventory},
    c.Refines S → (∀ call ∈ calls, call.2.1.Valid ∧ call.2.1.Ordinary) →
    (Op.runOn calls c).Refines (Op.runSpec (Op.salvaged calls) S)
  | [], _, _, h, _ => h
  | (net, op, now) :: calls, c, S, h, hc => by
      have hop := hc _ (List.mem_cons_self _ _)
      have hc' := fun call hcall => hc call (List.mem_cons_of_mem _ hcall)
      rw [Op.runOn, Op.step_salvage]
      cases hs : op.salvage net with
      | none => simpa only [Op.salvaged, hs] using Op.runOn_refines calls h hc'
      | some op' =>
          have hargs := Op.salvage_args hs
          simpa only [Op.salvaged, hs, Op.runSpec] using
            Op.runOn_refines calls (Op.step_refines h now (hargs.1 hop.1) (hargs.2 hop.2)) hc'

/-- **The store implements the inventory on a server that fails**: every run of
calls with valid, ordinary arguments from the empty store, from any number of
clients and whatever commands the server fails, holds exactly the devices of the
inventory's run of the calls the server carried out, a failed call counting as
the same call on the devices its command wrote, each device with the inventory's
record at every pair of the key convention. -/
theorem store_refines_inventory_of_failures (calls : List (Backend × Op × Int))
    (hc : ∀ call ∈ calls, call.2.1.Valid ∧ call.2.1.Ordinary) :
    (Op.runOn calls Collection.empty).Refines (Op.runSpec (Op.salvaged calls) fun _ => none) :=
  Op.runOn_refines calls Collection.refines_empty hc

/-- Two devices added to the group `g`, a move of both to `h` interrupted after `a`,
and the unset of `g` on both. -/
theorem store_refines_inventory_of_failures_regroup :
    (∀ call ∈ [(Backend.healthy, Op.addDevice ⟨"a", [], "g"⟩, 0), (.healthy, .addDevice ⟨"b", [], "g"⟩, 1),
        (.interrupted .updateMany (.backend "timeout") ["a"], .updateDevicesGroup ["a", "b"] "h", 2),
        (.healthy, .unsetDevicesGroup ["a", "b"] "g", 3)], call.2.1.Valid ∧ call.2.1.Ordinary) ∧
      (Op.runOn [(Backend.healthy, Op.addDevice ⟨"a", [], "g"⟩, 0), (.healthy, .addDevice ⟨"b", [], "g"⟩, 1),
          (.interrupted .updateMany (.backend "timeout") ["a"], .updateDevicesGroup ["a", "b"] "h", 2),
          (.healthy, .unsetDevicesGroup ["a", "b"] "g", 3)] Collection.empty).Refines
        (Op.runSpec (Op.salvaged
          [(Backend.healthy, Op.addDevice ⟨"a", [], "g"⟩, 0), (.healthy, .addDevice ⟨"b", [], "g"⟩, 1),
            (.interrupted .updateMany (.backend "timeout") ["a"], .updateDevicesGroup ["a", "b"] "h", 2),
            (.healthy, .unsetDevicesGroup ["a", "b"] "g", 3)]) fun _ => none) :=
  ⟨by decide, store_refines_inventory_of_failures _ (by decide)⟩

/-! ### A call seen from one device -/

/-- **`UpsertAttributes` of the device `devId`, seen from the document of `id`.** -/
def upsertAttributesDoc (net : Backend) (now : Int) (devId : DeviceID) (attrs : List DeviceAttribute)
    (id : DeviceID) (o : Option Doc) : Option Doc :=
  match makeAttrUpsert attrs with
  | .ok upsert => if id = devId then upsertDoc net devId (upsertUpdate upsert now) o else o
  | .error _ => o

/-- **One call, seen from the document of the device `id`**: what that document
becomes, from what it was alone. -/
def Op.onDoc (net : Backend) (now : Int) (id : DeviceID) : Op → Option Doc → Option Doc
  | .addDevice dev => upsertAttributesDoc net now dev.id dev.upsertList id
  | .upsertAttributes devId attrs => upsertAttributesDoc net now devId attrs id
  | .updateDeviceGroup devId newGroup => fun o =>
      if id = devId then updateOneDoc net (setGroupUpdate newGroup) o else o
  | .updateDevicesGroup devIDs group => updateManyDoc net (.idIn devIDs) (setGroupUpdate group)
  | .unsetDeviceGroup devId groupName =>
      updateManyDoc net (.and [.idEq devId, groupValueFilter groupName]) unsetGroupUpdate
  | .unsetDevicesGroup deviceIDs group =>
      updateManyDoc net (.and [.idIn deviceIDs, groupValueFilter group]) unsetGroupUpdate
  | .deleteDevice devId => fun o => if id = devId then deleteOneDoc net o else o

theorem upsertAttributes_find? (net : Backend) (now : Int) (c : Collection) (devId : DeviceID)
    (attrs : List DeviceAttribute) (id : DeviceID) :
    (upsertAttributes net now c devId attrs).2.find? id =
      upsertAttributesDoc net now devId attrs id (c.find? id) := by
  unfold upsertAttributes upsertAttributesDoc
  split
  · rename_i e he; rw [he]
  · rename_i m hm
    have h := upsertOne_find? net c devId (upsertUpdate m now) (upsertUpdate_shaped hm now) id
    simp only [hm]
    split <;> rename_i heq <;> rwa [heq] at h

/-- **One call, seen from one device, is `Op.onDoc`**: the document of `id` after
the call is a function of the document of `id` before it, whatever the other
documents are and whatever the server fails. -/
theorem Op.step_find? (net : Backend) (now : Int) (op : Op) (c : Collection) (id : DeviceID) :
    (op.step net now c).find? id = op.onDoc net now id (c.find? id) := by
  have hset : ∀ g, ∀ d ∈ c.docs, ∃ e, (setGroupUpdate g).apply false d = .ok e :=
    fun g d hd => setGroupUpdate_ok g false (c.layout d hd)
  cases op with
  | addDevice dev => rw [step_addDevice]; exact upsertAttributes_find? net now c _ _ id
  | upsertAttributes devId attrs => exact upsertAttributes_find? net now c devId attrs id
  | updateDeviceGroup devId g =>
      have h := updateOne_idEq_find? net c devId (setGroupUpdate g) (setGroupUpdate_shaped g) id
      simp only [Op.step, Op.onDoc, DeviceInventory.updateDeviceGroup]
      split <;> rename_i heq <;> rwa [heq] at h
  | updateDevicesGroup ids g =>
      have h := updateMany_find? net c (.idIn ids) _ (setGroupUpdate_shaped g) (fun d hd _ => hset g d hd) id
      simp only [Op.step, Op.onDoc, DeviceInventory.updateDevicesGroup]
      split <;> rename_i heq <;> rwa [heq] at h
  | unsetDeviceGroup devId g =>
      have h := updateMany_find? net c (.and [.idEq devId, groupValueFilter g]) _ unsetGroupUpdate_shaped
        (fun d _ _ => ⟨_, unsetGroupUpdate_apply false d⟩) id
      simp only [Op.step, Op.onDoc, DeviceInventory.unsetDeviceGroup]
      split <;> rename_i heq <;> rwa [heq] at h
  | unsetDevicesGroup ids g =>
      have h := updateMany_find? net c (.and [.idIn ids, groupValueFilter g]) _ unsetGroupUpdate_shaped
        (fun d _ _ => ⟨_, unsetGroupUpdate_apply false d⟩) id
      simp only [Op.step, Op.onDoc, DeviceInventory.unsetDevicesGroup]
      split <;> rename_i heq <;> rwa [heq] at h
  | deleteDevice devId =>
      have h := deleteOne_find?_eq net c devId id
      simp only [Op.step, Op.onDoc, DeviceInventory.deleteDevice]
      split <;> rename_i heq <;> rwa [heq] at h

/-- **A call leaves the document of a device it does not name as it was.** -/
theorem Op.onDoc_of_not_mem (net : Backend) (now : Int) {op : Op} {id : DeviceID} (h : id ∉ op.targets)
    {o : Option Doc} (hd : ∀ d ∈ o, d.id = id) : op.onDoc net now id o = o := by
  have hmany : ∀ (f : Query) (u : Update), (∀ d ∈ o, f.matches d = false) → updateManyDoc net f u o = o :=
    fun f u hf => by
      unfold updateManyDoc
      split
      · cases o with
        | none => rfl
        | some d => simp [hf d rfl]
      · rfl
  cases op <;> simp only [Op.targets, List.mem_singleton] at h
  case addDevice | upsertAttributes => simp only [Op.onDoc, upsertAttributesDoc, if_neg h]; split <;> rfl
  case updateDeviceGroup | deleteDevice => exact if_neg h
  all_goals exact hmany _ _ fun d hdo => by simp [hd d hdo, h]

/-- **A run seen from the document of the device `id`.** -/
def Op.runDoc (id : DeviceID) : List (Backend × Op × Int) → Option Doc → Option Doc
  | [], o => o
  | (net, op, now) :: calls, o => Op.runDoc id calls (op.onDoc net now id o)

/-- The document of a device after a run is its own run of the calls that name it. -/
theorem Op.runOn_find? (calls : List (Backend × Op × Int)) (c : Collection) (id : DeviceID) :
    (Op.runOn calls c).find? id = Op.runDoc id (calls.filter fun call => id ∈ call.2.1.targets) (c.find? id) := by
  induction calls generalizing c with
  | nil => rfl
  | cons call calls ih =>
      obtain ⟨net, op, now⟩ := call
      rw [Op.runOn, ih, Op.step_find?]
      by_cases h : id ∈ op.targets
      · rw [List.filter_cons_of_pos (by simpa using h), Op.runDoc]
      · rw [List.filter_cons_of_neg (by simpa using h), Op.onDoc_of_not_mem net now h
          fun d hd => (Collection.find?_eq_some_iff.mp hd).2]

/-- **Every device's document is built by the calls that name it, and by no
other**: in every state a run of any calls reaches from the empty store, from any
number of clients and whatever the server fails, the document of `id` is the
device's own run, from no document, of the calls that name `id`, in the order the
server applied them. -/
theorem device_document_of_own_calls (calls : List (Backend × Op × Int)) (id : DeviceID) :
    (Op.runOn calls Collection.empty).find? id =
      Op.runDoc id (calls.filter fun call => id ∈ call.2.1.targets) none :=
  Op.runOn_find? calls Collection.empty id

/-- `GetDevice` reads nothing but the document of its `_id`. -/
theorem getDevice_congr (net : Backend) {c c' : Collection} {id : DeviceID} (h : c.find? id = c'.find? id) :
    getDevice net c id = getDevice net c' id := by
  simp only [getDevice, findOne, find?_idEq, h]

/-- **Calls on other devices do not change what a device reads as**: two runs,
from any number of clients, in which the calls naming the device `id` are the
same and come in the same order, leave `GetDevice` of `id` reading the same,
however the calls on other devices are interleaved with them and whatever the
server fails. -/
theorem getDevice_interleavings {calls₁ calls₂ : List (Backend × Op × Int)} {id : DeviceID}
    (h : calls₁.filter (fun call => id ∈ call.2.1.targets) = calls₂.filter fun call => id ∈ call.2.1.targets)
    (net : Backend) (c : Collection) :
    getDevice net (Op.runOn calls₁ c) id = getDevice net (Op.runOn calls₂ c) id :=
  getDevice_congr net (by rw [Op.runOn_find?, Op.runOn_find?, h])

/-- Two clients, one on `a` and one on `b`, their calls in two interleavings. -/
theorem getDevice_interleavings_ab :
    [(Backend.healthy, Op.addDevice ⟨"a", [], "g"⟩, (0 : Int)), (.healthy, .addDevice ⟨"b", [], ""⟩, 1),
        (.healthy, .unsetDeviceGroup "a" "g", 2), (.healthy, .updateDeviceGroup "b" "g", 3)].filter
        (fun call => "a" ∈ call.2.1.targets) =
      [(Backend.healthy, Op.addDevice ⟨"b", [], ""⟩, (1 : Int)), (.healthy, .addDevice ⟨"a", [], "g"⟩, 0),
        (.healthy, .updateDeviceGroup "b" "g", 3), (.healthy, .unsetDeviceGroup "a" "g", 2)].filter
        (fun call => "a" ∈ call.2.1.targets) ∧
    getDevice .healthy (Op.runOn [(Backend.healthy, Op.addDevice ⟨"a", [], "g"⟩, (0 : Int)),
        (.healthy, .addDevice ⟨"b", [], ""⟩, 1), (.healthy, .unsetDeviceGroup "a" "g", 2),
        (.healthy, .updateDeviceGroup "b" "g", 3)] Collection.empty) "a" =
      getDevice .healthy (Op.runOn [(Backend.healthy, Op.addDevice ⟨"b", [], ""⟩, (1 : Int)),
        (.healthy, .addDevice ⟨"a", [], "g"⟩, 0), (.healthy, .updateDeviceGroup "b" "g", 3),
        (.healthy, .unsetDeviceGroup "a" "g", 2)] Collection.empty) "a" :=
  have h : [(Backend.healthy, Op.addDevice ⟨"a", [], "g"⟩, (0 : Int)), (.healthy, .addDevice ⟨"b", [], ""⟩, 1),
        (.healthy, .unsetDeviceGroup "a" "g", 2), (.healthy, .updateDeviceGroup "b" "g", 3)].filter
        (fun call => "a" ∈ call.2.1.targets) =
      [(Backend.healthy, Op.addDevice ⟨"b", [], ""⟩, (1 : Int)), (.healthy, .addDevice ⟨"a", [], "g"⟩, 0),
        (.healthy, .updateDeviceGroup "b" "g", 3), (.healthy, .unsetDeviceGroup "a" "g", 2)].filter
        (fun call => "a" ∈ call.2.1.targets) := rfl
  ⟨h, getDevice_interleavings h .healthy Collection.empty⟩

/-! ### The records a call keeps -/

/-- Two record fields `attributes.<k>` and `attributes.<k'>` meet only when they are one. -/
theorem eq_of_conflicting_record {k k' : String}
    (h : Conflicting [dbDevAttributes, k] [dbDevAttributes, k']) : k = k' := by
  rcases h with h | h
  · simpa using h.eq_of_length rfl
  · simpa using (h.eq_of_length rfl).symm

section Records

variable {d e : Doc} {k : String}

/-- **An upsert keeps every record it finds**: what it writes into a record puts a
leaf there, and the `created` stamp it writes only on insert. -/
theorem upsertUpdate_has_record {attrs : List DeviceAttribute} {m : List (String × Subtree)} {now : Int}
    (hm : makeAttrUpsert attrs = .ok m) (h : (upsertUpdate m now).apply false d = .ok e)
    (hd : d.has [dbDevAttributes, k] = true) : e.has [dbDevAttributes, k] = true := by
  refine Update.apply_has h hd (fun kv hkv hc => ?_) (fun h => absurd h Bool.false_ne_true)
    fun _ hk => absurd hk (List.not_mem_nil _)
  rcases upsertUpdate_set_cases hm hkv with ⟨a, -, sub, hsub, x, rfl⟩ | rfl
  · have hlen := (layoutPath_makeAttrField a.name a.effScope (dotFree_of_mem_attrSubFields hsub)).2
    refine ⟨[], x, ?_, rfl⟩
    rw [List.append_nil]
    exact hc.resolve_left fun hpre => absurd hpre.length_le (by simp; omega)
  · rw [fieldPath_updatedField] at hc ⊢
    rw [eq_of_conflicting_record hc.symm]
    exact ⟨[dbDevAttributesScope], _, List.prefix_append _ _, rfl⟩

theorem setGroupUpdate_has_record {g : String} (h : (setGroupUpdate g).apply false d = .ok e)
    (hd : d.has [dbDevAttributes, k] = true) : e.has [dbDevAttributes, k] = true := by
  refine Update.apply_has h hd (fun kv hkv hc => ?_) (fun h => absurd h Bool.false_ne_true)
    fun _ hk => absurd hk (List.not_mem_nil _)
  rw [List.mem_singleton.mp hkv, fieldPath_dbDevAttributesGroup] at hc ⊢
  rw [eq_of_conflicting_record hc.symm]
  exact ⟨[dbDevAttributesScope], _, List.prefix_append _ _, rfl⟩

theorem unsetGroupUpdate_has_record (hk : k ≠ attrScopeSystem ++ "-" ++ attrNameGroup)
    (h : unsetGroupUpdate.apply false d = .ok e) (hd : d.has [dbDevAttributes, k] = true) :
    e.has [dbDevAttributes, k] = true :=
  Update.apply_has h hd (fun _ hkv => absurd hkv (List.not_mem_nil _)) (fun h => absurd h Bool.false_ne_true)
    fun k' hk' hc => by
      rw [List.mem_singleton.mp hk', fieldPath_dbDevAttributesGroup] at hc
      exact hk (eq_of_conflicting_record hc).symm

end Records

/-- **A call removes a record other than the group's only by deleting its device**:
whatever the call and whatever the server fails, a device that holds the record
`attributes.<k>` still holds it after any call but `DeleteDevice` of that device. -/
theorem Op.step_keeps_record (net : Backend) (now : Int) {op : Op} {c : Collection} {id : DeviceID}
    {k : String} (hk : k ≠ attrScopeSystem ++ "-" ++ attrNameGroup) (hop : op ≠ .deleteDevice id)
    (hd : ((c.find? id).any fun d => d.has [dbDevAttributes, k]) = true) :
    ((op.step net now c).find? id).any (fun d => d.has [dbDevAttributes, k]) = true := by
  cases hf : c.find? id with
  | none => rw [hf] at hd; cases hd
  | some d =>
      rw [hf, Option.any_some] at hd
      -- a write that moved the document kept the record if its update does
      have moved : ∀ {f u ups}, Evolves f u ups c (op.step net now c) →
          (∀ e, u.apply false d = .ok e → e.has [dbDevAttributes, k] = true) →
          ((op.step net now c).find? id).any (fun d => d.has [dbDevAttributes, k]) = true :=
        fun hev hu => by
          obtain ⟨e, he, hde⟩ := hev.find?_some hf
          rw [he, Option.any_some]
          rcases hde with rfl | ⟨-, h⟩
          exacts [hd, hu e h]
      rcases op.step_cases net now c with
        ⟨_, _, -, h | ⟨m, hm, hev⟩⟩ | ⟨_, g, -, hev⟩ | ⟨_, _, -, hev⟩ | ⟨i, rfl, hdel⟩
      · rw [h, hf, Option.any_some]; exact hd
      · exact moved hev fun e h => upsertUpdate_has_record hm h hd
      · exact moved hev fun e h => setGroupUpdate_has_record h hd
      · exact moved hev fun e h => unsetGroupUpdate_has_record hk h hd
      · rw [(hdel id).resolve_right fun h => hop (h.1 ▸ rfl), hf, Option.any_some]; exact hd

/-- **No attribute record is lost but by deleting its device**: over a run of calls
from any number of clients, with any arguments and whatever the server fails, a
device that holds a record other than the group's still holds it at the end,
unless the run deletes the device. -/
theorem records_kept {calls : List (Backend × Op × Int)} {c : Collection} {id : DeviceID} {k : String}
    (hk : k ≠ attrScopeSystem ++ "-" ++ attrNameGroup) (hdel : ∀ call ∈ calls, call.2.1 ≠ .deleteDevice id)
    (hd : ((c.find? id).any fun d => d.has [dbDevAttributes, k]) = true) :
    ((Op.runOn calls c).find? id).any (fun d => d.has [dbDevAttributes, k]) = true := by
  induction calls generalizing c with
  | nil => exact hd
  | cons call calls ih =>
      obtain ⟨net, op, now⟩ := call
      exact ih (fun call hc => hdel call (List.mem_cons_of_mem _ hc))
        (Op.step_keeps_record net now hk (hdel _ (List.mem_cons_self _ _)) hd)

/-- The `mac` record of `a` through a group assignment, an unset the server fails,
and another upsert. -/
theorem records_kept_mac :
    "inventory-mac" ≠ attrScopeSystem ++ "-" ++ attrNameGroup ∧
    (∀ call ∈ [(Backend.healthy, Op.updateDeviceGroup "a" "g", (1 : Int)),
        (.failing .updateMany (.backend "timeout"), .unsetDeviceGroup "a" "g", 2),
        (.healthy, .upsertAttributes "a" [⟨"ip", none, some (.scalar (.str "10.0.0.1")), ""⟩], 3)],
        call.2.1 ≠ .deleteDevice "a") ∧
    ((((Op.addDevice ⟨"a", [⟨"mac", none, some (.scalar (.str "00:11")), ""⟩], ""⟩).step .healthy 0
        Collection.empty).find? "a").any fun d => d.has [dbDevAttributes, "inventory-mac"]) = true ∧
    ((Op.runOn [(Backend.healthy, Op.updateDeviceGroup "a" "g", (1 : Int)),
        (.failing .updateMany (.backend "timeout"), .unsetDeviceGroup "a" "g", 2),
        (.healthy, .upsertAttributes "a" [⟨"ip", none, some (.scalar (.str "10.0.0.1")), ""⟩], 3)]
        ((Op.addDevice ⟨"a", [⟨"mac", none, some (.scalar (.str "00:11")), ""⟩], ""⟩).step .healthy 0
          Collection.empty)).find? "a").any (fun d => d.has [dbDevAttributes, "inventory-mac"]) = true :=
  have hk : "inventory-mac" ≠ attrScopeSystem ++ "-" ++ attrNameGroup := by decide
  have hdel : ∀ call ∈ [(Backend.healthy, Op.updateDeviceGroup "a" "g", (1 : Int)),
      (.failing .updateMany (.backend "timeout"), .unsetDeviceGroup "a" "g", 2),
      (.healthy, .upsertAttributes "a" [⟨"ip", none, some (.scalar (.str "10.0.0.1")), ""⟩], 3)],
      call.2.1 ≠ .deleteDevice "a" := by decide
  have hd : ((((Op.addDevice ⟨"a", [⟨"mac", none, some (.scalar (.str "00:11")), ""⟩], ""⟩).step .healthy 0
      Collection.empty).find? "a").any fun d => d.has [dbDevAttributes, "inventory-mac"]) = true := by decide
  ⟨hk, hdel, hd, records_kept hk hdel hd⟩

end DeviceInventory
