import DeviceInventory.Mongo.Replay
import DeviceInventory.Store.Isolation

/-!
# The bulk group writes, one device at a time

`UpdateDevicesGroup` and `UnsetDevicesGroup` are single `UpdateMany` commands over a
list of ids; `UpdateDeviceGroup` and `UnsetDeviceGroup` write one device.  Seen from
one `_id`, a bulk write is the run of the single writes, one for each id of its list,
in the list's order, on a store that fails nothing:

* the bulk unset leaves every device's document exactly as the singles leave it: once
  the record is gone the filter no longer passes the device, so an id listed twice is
  unset once;
* the bulk set leaves every device's document reading as the singles leave it: an id
  listed twice has its group record written twice, and the second write changes no
  read (`Update.applyOr_iterate`).

The proofs go through the per-document view of Store/Isolation: the single writes that
name `id` are, in a run of singles over `ids`, one write for each time `ids` names it,
so their effect on the document is an iterate of one write.

## Main statements

* `updateDevicesGroup_as_singles` — the bulk set and the singles read alike.
* `unsetDevicesGroup_as_singles` — the bulk unset and the singles agree.
-/

namespace DeviceInventory

/-- **The calls of a run of single-device calls over `ids` that name `id`**: one for
each time the list names it. -/
theorem filter_singles (ids : List DeviceID) (mk : DeviceID → Op) (hmk : ∀ i, (mk i).targets = [i])
    (now : Int) (id : DeviceID) :
    (ids.map fun i => (Backend.healthy, mk i, now)).filter (fun call => id ∈ call.2.1.targets) =
      List.replicate (ids.count id) (Backend.healthy, mk id, now) := by
  induction ids with
  | nil => rfl
  | cons i ids ih =>
      by_cases h : i = id
      · subst h; simp [hmk, ih, List.replicate_succ]
      · simp [hmk, ih, List.count_cons, Ne.symm h, h]

theorem runDoc_replicate (id : DeviceID) (call : Backend × Op × Int) (k : Nat) (o : Option Doc) :
    Op.runDoc id (List.replicate k call) o = (call.2.1.onDoc call.1 call.2.2 id)^[k] o := by
  induction k generalizing o with
  | zero => rfl
  | succ k ih => obtain ⟨net, op, now⟩ := call; simp only [List.replicate_succ, Op.runDoc, ih]; rfl

/-- On a store that fails nothing, an `UpdateMany` whose filter and update pass their
checks updates the document if the filter passes it. -/
theorem updateManyDoc_healthy {f : Query} {u : Update} (hf : f.check = .ok ()) (hu : u.check = .ok ()) :
    updateManyDoc .healthy f u = Option.map fun d => if f.matches d then u.applyOr d else d := by
  funext o; simp only [updateManyDoc, Backend.healthy_wrote, Bool.and_true, hf, hu, and_self, if_true]

/-- **An update applied again and again reads as applied once.** -/
theorem Update.applyOr_iterate (u : Update) (d : Doc) : ∀ k, (u.applyOr^[k + 1] d).ReadsAlike (u.applyOr d)
  | 0 => .refl _
  | k + 1 => by
      rw [Function.iterate_succ_apply']
      exact (u.applyOr_congr (Update.applyOr_iterate u d k)).trans (u.applyOr_again d)

/-- **`UpdateDevicesGroup` is `UpdateDeviceGroup` over its ids, one after the other**:
on a store that fails nothing, the bulk write and the run of single writes, one for
each id of the list, leave every device with a document of the same `_id` that reads
the same at every path, or leave it absent alike. -/
theorem updateDevicesGroup_as_singles (c : Collection) (ids : List DeviceID) (g : String) (now : Int)
    (id : DeviceID) :
    Option.Rel (fun d e => d.id = e.id ∧ ∀ q, d.get q = e.get q)
      ((updateDevicesGroup .healthy c ids g).2.find? id)
      ((Op.runOn (ids.map fun i => (Backend.healthy, Op.updateDeviceGroup i g, now)) c).find? id) := by
  have hbulk := Op.step_find? .healthy now (.updateDevicesGroup ids g) c id
  have hone : Op.onDoc .healthy now id (.updateDeviceGroup id g) = Option.map (setGroupUpdate g).applyOr := by
    funext o; simp [Op.onDoc, updateOneDoc]
  rw [Op.runOn_find?, filter_singles ids (fun i => .updateDeviceGroup i g) (fun _ => rfl), runDoc_replicate]
  simp only [Op.step] at hbulk
  rw [hbulk, hone]
  cases hf : c.find? id with
  | none => rw [Function.iterate_fixed rfl]; exact .none
  | some d =>
      have hsc : Function.Semiconj some (setGroupUpdate g).applyOr (Option.map (setGroupUpdate g).applyOr) :=
        fun _ => rfl
      rw [← hsc.iterate_right, Op.onDoc, updateManyDoc_healthy (f := .idIn ids) (u := setGroupUpdate g) rfl rfl]
      simp only [Option.map_some', Query.matches_idIn, (Collection.find?_eq_some_iff.mp hf).2, decide_eq_true_eq]
      split_ifs with hin
      · obtain ⟨k, hk⟩ := Nat.exists_eq_add_of_lt (List.count_pos_iff.mpr hin)
        rw [hk, Nat.zero_add]
        exact .some (Update.applyOr_iterate _ d k).symm
      · rw [List.count_eq_zero_of_not_mem hin]
        exact .some (Doc.ReadsAlike.refl d)

theorem unsetGroup_applyOr (d : Doc) : unsetGroupUpdate.applyOr d = unsetField groupPath d := by
  simp only [Update.applyOr, unsetGroupUpdate_apply]

theorem inGroup_unsetField (g : String) (d : Doc) : (unsetField groupPath d).InGroup g = false :=
  Bool.eq_false_iff.mpr fun h => absurd (has_of_inGroup h) (by simp [unsetField_has_self])

/-- **Unsetting a device's group twice is unsetting it once**: once the record is
gone, the filter no longer passes the device. -/
theorem unsetDeviceGroupDoc_idempotent (id : DeviceID) (g : String) (o : Option Doc) :
    updateManyDoc .healthy (.and [.idEq id, groupValueFilter g]) unsetGroupUpdate
      (updateManyDoc .healthy (.and [.idEq id, groupValueFilter g]) unsetGroupUpdate o) =
    updateManyDoc .healthy (.and [.idEq id, groupValueFilter g]) unsetGroupUpdate o := by
  rw [updateManyDoc_healthy (f := .and [.idEq id, groupValueFilter g]) (u := unsetGroupUpdate) rfl rfl,
    Option.map_map]
  congr 1; funext d
  by_cases hm : d.id = id ∧ d.InGroup g = true
  · simp [hm, unsetGroup_applyOr, inGroup_unsetField]
  · simp [hm]

/-- **`UnsetDevicesGroup` is `UnsetDeviceGroup` over its ids, one after the other**:
on a store that fails nothing, the bulk unset and the run of single unsets, one for
each id of the list, leave every device's document the same. -/
theorem unsetDevicesGroup_as_singles (c : Collection) (ids : List DeviceID) (g : String) (now : Int)
    (id : DeviceID) :
    (unsetDevicesGroup .healthy c ids g).2.find? id =
      (Op.runOn (ids.map fun i => (Backend.healthy, Op.unsetDeviceGroup i g, now)) c).find? id := by
  have hbulk := Op.step_find? .healthy now (.unsetDevicesGroup ids g) c id
  simp only [Op.step] at hbulk
  rw [hbulk, Op.runOn_find?, filter_singles ids (fun i => .unsetDeviceGroup i g) (fun _ => rfl),
    runDoc_replicate]
  simp only [Op.onDoc]
  -- the single unsets of `id`, one for each time the list names it, are one unset or none
  have hiter : ∀ o, (updateManyDoc .healthy (.and [.idEq id, groupValueFilter g]) unsetGroupUpdate)^[ids.count id] o =
      if id ∈ ids then updateManyDoc .healthy (.and [.idEq id, groupValueFilter g]) unsetGroupUpdate o else o := by
    intro o
    cases hk : ids.count id with
    | zero => rw [if_neg (List.count_eq_zero.mp hk), Function.iterate_zero_apply]
    | succ k =>
        rw [if_pos (List.count_pos_iff.mp (by omega)), Function.iterate_succ_apply,
          Function.iterate_fixed (unsetDeviceGroupDoc_idempotent id g _)]
  rw [hiter, updateManyDoc_healthy (f := .and [.idIn ids, groupValueFilter g]) (u := unsetGroupUpdate) rfl rfl,
    updateManyDoc_healthy (f := .and [.idEq id, groupValueFilter g]) (u := unsetGroupUpdate) rfl rfl]
  cases hf : c.find? id with
  | none => split_ifs <;> rfl
  | some d =>
      have hid := (Collection.find?_eq_some_iff.mp hf).2
      split_ifs with hin <;> simp [hid, hin]

end DeviceInventory
