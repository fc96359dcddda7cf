import DeviceInventory.Store.Commute

/-!
# What a device document holds

Every leaf the store ever writes is one of the four fields of an attribute record,
`attributes.<scope>-<name>.<field>`.  This module proves that of every state valid
calls reach, whatever the server does, and draws the consequence for the
abstraction of `DeviceInventory.Store.Inventory`: a document is read in full by its
attribute map, so two runs the inventory cannot tell apart are runs `GetDevice`
cannot tell apart either.

## Main definitions

* `RecordPath`, `Doc.Records` — a path to a field of the record of a conventional
  pair, and a document whose every leaf lies at one.

## Main statements

* `records_reachable` — every document of every state valid calls reach holds
  only attribute records.
* `Doc.Records.get_eq` — two such documents whose maps agree read the same at
  every path.
* `getDevice_determined` — two runs whose inventories agree make `GetDevice`
  return the same device, read for read.

## Design notes

The invariant is proved like those of `DeviceInventory.Store.Invariants`: what
each update document writes (`upsertUpdate_recordPaths`,
`setGroupUpdate_recordPaths`), carried to a call by `Op.step_cases`.  A
whole-attribute write, a timestamp or the group record, writes the leaves of
`DeviceAttribute.encode`, which are fields of the record too (`mem_encode_sub`).
-/

namespace DeviceInventory

/-! ### Record paths -/

/-- **A path to a field of an attribute record**: `attributes.<scope>-<name>.<field>`
for a pair of the key convention and one of the four fields the store writes. -/
def RecordPath (p : Path) : Prop :=
  ∃ s n, KeyConvention s n ∧ ∃ sub ∈ attrSubFields, p = [dbDevAttributes, s ++ "-" ++ n, sub]

/-- **A document of attribute records**: every leaf lies at a record path. -/
def Doc.Records (d : Doc) : Prop := ∀ f ∈ d.fields, RecordPath f.1

/-- A whole attribute is written as fields of its record. -/
theorem mem_encode_sub {a : DeviceAttribute} {x : Path × Leaf} (hx : x ∈ a.encode) :
    ∃ sub ∈ attrSubFields, x.1 = [sub] := by
  obtain ⟨name, description, value, scope⟩ := a
  cases value <;> cases description <;> simp [DeviceAttribute.encode] at hx <;>
    rcases hx with rfl | rfl | rfl | rfl <;> exact ⟨_, by decide, rfl⟩

theorem recordPath_encode {s n : String} (h : KeyConvention s n) {a : DeviceAttribute}
    {x : Path × Leaf} (hx : x ∈ a.encode) : RecordPath ([dbDevAttributes, s ++ "-" ++ n] ++ x.1) := by
  obtain ⟨sub, hsub, hx1⟩ := mem_encode_sub hx
  exact ⟨s, n, h, sub, hsub, by rw [hx1]; rfl⟩

section Writes

variable {attrs : List DeviceAttribute} {m : List (String × Subtree)}

/-- **Every leaf the upsert writes lies at a record path**, for a batch of the key
convention. -/
theorem upsertUpdate_recordPaths (hm : makeAttrUpsert attrs = .ok m)
    (hconv : ∀ a ∈ attrs, KeyConvention a.effScope a.name) (now : Int) :
    ∀ kv ∈ (upsertUpdate m now).set ++ (upsertUpdate m now).setOnInsert, ∀ x ∈ kv.2,
      RecordPath (fieldPath kv.1 ++ x.1) := by
  intro kv hkv x hx
  rcases List.mem_append.mp hkv with hkv | hkv
  · rcases upsertUpdate_set_cases hm hkv with ⟨a, ha, sub, hsub, y, rfl⟩ | rfl
    · obtain rfl := List.mem_singleton.mp hx
      rw [fieldPath_makeAttrField_of_convention (hconv a ha) (dotFree_of_mem_attrSubFields hsub),
        List.append_nil]
      exact ⟨_, _, hconv a ha, sub, hsub, rfl⟩
    · rw [fieldPath_updatedField]
      exact recordPath_encode (by decide) hx
  · obtain rfl := List.mem_singleton.mp hkv
    rw [fieldPath_createdField]
    exact recordPath_encode (by decide) hx

theorem setGroupUpdate_recordPaths (g : String) :
    ∀ kv ∈ (setGroupUpdate g).set ++ (setGroupUpdate g).setOnInsert, ∀ x ∈ kv.2,
      RecordPath (fieldPath kv.1 ++ x.1) := by
  intro kv hkv x hx
  obtain rfl := List.mem_singleton.mp hkv
  rw [fieldPath_dbDevAttributesGroup]
  exact recordPath_encode (by decide) hx

end Writes

/-- A write whose every leaf lies at a record path keeps the documents records. -/
theorem records_of_evolves {f : Query} {u : Update} {upsert : Bool} {c c' : Collection}
    (hev : Evolves f u upsert c c')
    (hu : ∀ kv ∈ u.set ++ u.setOnInsert, ∀ x ∈ kv.2, RecordPath (fieldPath kv.1 ++ x.1))
    (hc : ∀ d ∈ c.docs, d.Records) : ∀ e ∈ c'.docs, e.Records :=
  hev.forall_docs hc (fun _ _ hd _ h => Update.apply_forall (Q := fun f => RecordPath f.1) h hu hd)
    fun _ _ _ h => Update.apply_forall (Q := fun f => RecordPath f.1) h hu
      fun _ h => absurd h (List.not_mem_nil _)

/-- **Every valid call keeps every document a document of records.** -/
theorem records_step (net : Backend) (now : Int) {op : Op} (hop : op.Valid) {c : Collection}
    (hc : ∀ d ∈ c.docs, d.Records) : ∀ e ∈ (op.step net now c).docs, e.Records := by
  rcases op.step_cases net now c with
    ⟨_, _, hup, h | ⟨m, hm, hev⟩⟩ | ⟨_, g, -, hev⟩ | ⟨_, _, -, hev⟩ | ⟨_, -, hdel⟩
  · rwa [h]
  · exact records_of_evolves hev
      (upsertUpdate_recordPaths hm (fun a ha => (upserted_valid hop hup a ha).1) now) hc
  · exact records_of_evolves hev (setGroupUpdate_recordPaths g) hc
  · exact records_of_evolves hev (fun _ h => absurd h (List.not_mem_nil _)) hc
  · exact fun e he => hc e (mem_of_find?_drops hdel he)

/-- **In every state valid calls reach, on any store and whatever it fails, every
leaf of every device document is the scope, name, value or description field of
the record of a pair of the key convention.** -/
theorem records_reachable {c : Collection} (hc : Reachable Op.Valid c) : ∀ d ∈ c.docs, d.Records :=
  Reachable.invariant (P := fun c => ∀ d ∈ c.docs, d.Records) (fun _ h => absurd h (List.not_mem_nil _))
    (fun net now _ _ hop ih => records_step net now hop ih) hc

/-- A device added with a `mac` attribute and the group `g`. -/
theorem records_reachable_mac :
    Reachable Op.Valid ((Op.addDevice ⟨"a", [⟨"mac", none, some (.scalar (.str "00:11")), ""⟩], "g"⟩).step
      .healthy 0 Collection.empty) ∧
    ∀ d ∈ ((Op.addDevice ⟨"a", [⟨"mac", none, some (.scalar (.str "00:11")), ""⟩], "g"⟩).step
      .healthy 0 Collection.empty).docs, d.Records :=
  have hr : Reachable Op.Valid ((Op.addDevice ⟨"a", [⟨"mac", none, some (.scalar (.str "00:11")), ""⟩],
      "g"⟩).step .healthy 0 Collection.empty) :=
    .single ⟨.healthy, 0, _, by decide, rfl⟩
  ⟨hr, records_reachable hr⟩

/-! ### A document is read in full by its map -/

theorem AttrMap.Agree.symm {M M' : AttrMap} (h : AttrMap.Agree M M') : AttrMap.Agree M' M :=
  fun s n hsn => (h s n hsn).symm

theorem AttrMap.Agree.trans {M M' M'' : AttrMap} (h : AttrMap.Agree M M') (h' : AttrMap.Agree M' M'') :
    AttrMap.Agree M M'' :=
  fun s n hsn => (h s n hsn).trans (h' s n hsn)

/-- The record's fields, each read from the record. -/
theorem get_eq_of_entry_eq {d e : Doc} {k : String} (h : d.entry k = e.entry k) {sub : String}
    (hsub : sub ∈ attrSubFields) : d.get [dbDevAttributes, k, sub] = e.get [dbDevAttributes, k, sub] := by
  simp only [attrSubFields, List.mem_cons, List.mem_singleton, List.not_mem_nil, or_false] at hsub
  rcases hsub with rfl | rfl | rfl | rfl
  exacts [congrArg Entry.scope h, congrArg Entry.name h, congrArg Entry.value h,
    congrArg Entry.description h]

theorem Doc.Records.get_of_some {d e : Doc} (hd : d.Records) (h : AttrMap.Agree d.attrMap e.attrMap)
    {q : Path} {w : Leaf} (hq : d.get q = some w) : e.get q = some w := by
  obtain ⟨s, n, hsn, sub, hsub, rfl⟩ := hd _ (mem_of_leafAt hq)
  rw [← hq]
  exact (get_eq_of_entry_eq (h s n hsn) hsub).symm

/-- **Two documents of records whose maps agree read the same at every path.** -/
theorem Doc.Records.get_eq {d e : Doc} (hd : d.Records) (he : e.Records)
    (h : AttrMap.Agree d.attrMap e.attrMap) (q : Path) : d.get q = e.get q := by
  cases hq : d.get q with
  | some w => exact (hd.get_of_some h hq).symm
  | none =>
      cases hq' : e.get q with
      | none => rfl
      | some w => rw [← hq, he.get_of_some h.symm hq']

/-! ### `GetDevice` after a run -/

theorem reachable_run {allowed : Op → Prop} (net : Backend) :
    ∀ (calls : List (Op × Int)) {c : Collection}, Reachable allowed c → (∀ call ∈ calls, allowed call.1) →
      Reachable allowed (Op.run net calls c)
  | [], _, hc, _ => hc
  | (op, now) :: calls, _, hc, h =>
      reachable_run net calls (.tail hc ⟨net, now, op, h _ (List.mem_cons_self _ _), rfl⟩)
        fun call hcall => h call (List.mem_cons_of_mem _ hcall)

/-- The device a run leaves under `id`, against the inventory's record of it. -/
theorem run_find? {calls : List (Op × Int)} (h : ∀ call ∈ calls, call.1.Valid ∧ call.1.Ordinary)
    (id : DeviceID) :
    Option.Rel (fun d M => d.id = id ∧ d.Records ∧ AttrMap.Agree d.attrMap M)
      ((Op.run .healthy calls Collection.empty).find? id) (Op.runSpec calls (fun _ => none) id) :=
  have hrec : ∀ d ∈ (Op.run .healthy calls Collection.empty).docs, d.Records :=
    Reachable.invariant (P := fun c => ∀ d ∈ c.docs, d.Records) (fun _ h => absurd h (List.not_mem_nil _))
      (fun net now _ _ hop ih => records_step net now hop ih)
      (reachable_run .healthy calls .refl fun call hc => (h call hc).1)
  rel_of_map ((Op.run_refines calls Collection.refines_empty h).2 id) fun d _ hd hM =>
    have hd := Collection.find?_eq_some_iff.mp hd
    ⟨hd.2, hrec d hd.1, hM⟩

/-- **Two runs the inventory cannot tell apart, `GetDevice` cannot either**: on a
store that does not fail, two runs of valid, ordinary calls from the empty store
whose inventories agree at every device make `GetDevice` return, for every id,
the same device, holding the same leaf at every path. -/
theorem getDevice_determined (calls₁ calls₂ : List (Op × Int))
    (h₁ : ∀ call ∈ calls₁, call.1.Valid ∧ call.1.Ordinary)
    (h₂ : ∀ call ∈ calls₂, call.1.Valid ∧ call.1.Ordinary)
    (hS : ∀ id, Option.Rel AttrMap.Agree (Op.runSpec calls₁ (fun _ => none) id)
      (Op.runSpec calls₂ (fun _ => none) id)) (id : DeviceID) :
    ∃ o₁ o₂, getDevice .healthy (Op.run .healthy calls₁ Collection.empty) id = .ok o₁ ∧
      getDevice .healthy (Op.run .healthy calls₂ Collection.empty) id = .ok o₂ ∧
      Option.Rel (fun d e => d.id = e.id ∧ ∀ q, d.get q = e.get q) o₁ o₂ := by
  by_cases hid : id = nilDeviceID
  · exact ⟨none, none, by rw [getDevice, if_pos hid], by rw [getDevice, if_pos hid], .none⟩
  refine ⟨_, _, getDevice_healthy _ hid, getDevice_healthy _ hid, ?_⟩
  have r₁ := run_find? h₁ id
  have r₂ := run_find? h₂ id
  have r := hS id
  generalize (Op.run .healthy calls₁ Collection.empty).find? id = o₁ at r₁
  generalize (Op.run .healthy calls₂ Collection.empty).find? id = o₂ at r₂
  generalize Op.runSpec calls₁ (fun _ => none) id = T₁ at r₁ r
  generalize Op.runSpec calls₂ (fun _ => none) id = T₂ at r₂ r
  cases r with
  | none => cases r₁; cases r₂; exact .none
  | some hM =>
      cases r₁ with
      | some hd =>
          cases r₂ with
          | some he =>
              exact .some ⟨hd.1.trans he.1.symm,
                hd.2.1.get_eq he.2.1 ((hd.2.2.trans hM).trans he.2.2.symm)⟩

/-- A `mac` and an `ip` attribute upserted to the device `a` in either order, at one
clock reading: both runs hold the device, and it reads alike, though its fields
are stored in the two orders. -/
theorem getDevice_determined_reordered :
    (∀ call ∈ [(Op.upsertAttributes "a" [⟨"mac", none, some (.scalar (.str "00:11")), ""⟩], (0 : Int)), (.upsertAttributes "a" [⟨"ip", none, some (.scalar (.str "10.0.0.1")), ""⟩], 0)],
      call.1.Valid ∧ call.1.Ordinary) ∧
    (∀ call ∈ [(Op.upsertAttributes "a" [⟨"ip", none, some (.scalar (.str "10.0.0.1")), ""⟩], (0 : Int)), (.upsertAttributes "a" [⟨"mac", none, some (.scalar (.str "00:11")), ""⟩], 0)],
      call.1.Valid ∧ call.1.Ordinary) ∧
    (∀ id, Option.Rel AttrMap.Agree
      (Op.runSpec [(Op.upsertAttributes "a" [⟨"mac", none, some (.scalar (.str "00:11")), ""⟩], (0 : Int)), (.upsertAttributes "a" [⟨"ip", none, some (.scalar (.str "10.0.0.1")), ""⟩], 0)] (fun _ => none) id)
      (Op.runSpec [(Op.upsertAttributes "a" [⟨"ip", none, some (.scalar (.str "10.0.0.1")), ""⟩], (0 : Int)), (.upsertAttributes "a" [⟨"mac", none, some (.scalar (.str "00:11")), ""⟩], 0)] (fun _ => none) id)) ∧
    ∃ o₁ o₂,
      getDevice .healthy (Op.run .healthy [(Op.upsertAttributes "a" [⟨"mac", none, some (.scalar (.str "00:11")), ""⟩], (0 : Int)), (.upsertAttributes "a" [⟨"ip", none, some (.scalar (.str "10.0.0.1")), ""⟩], 0)] Collection.empty) "a" = .ok o₁ ∧
      getDevice .healthy (Op.run .healthy [(Op.upsertAttributes "a" [⟨"ip", none, some (.scalar (.str "10.0.0.1")), ""⟩], (0 : Int)), (.upsertAttributes "a" [⟨"mac", none, some (.scalar (.str "00:11")), ""⟩], 0)] Collection.empty) "a" = .ok o₂ ∧
      Option.Rel (fun d e => d.id = e.id ∧ ∀ q, d.get q = e.get q) o₁ o₂ :=
  have hS : ∀ id, Option.Rel AttrMap.Agree
      (Op.runSpec [(Op.upsertAttributes "a" [⟨"mac", none, some (.scalar (.str "00:11")), ""⟩], (0 : Int)), (.upsertAttributes "a" [⟨"ip", none, some (.scalar (.str "10.0.0.1")), ""⟩], 0)] (fun _ => none) id)
      (Op.runSpec [(Op.upsertAttributes "a" [⟨"ip", none, some (.scalar (.str "10.0.0.1")), ""⟩], (0 : Int)), (.upsertAttributes "a" [⟨"mac", none, some (.scalar (.str "00:11")), ""⟩], 0)] (fun _ => none) id) := fun id => by
    by_cases h : id = "a"
    · -- each run is one upsert of both batches, and disjoint batches merge in either order
      subst h
      simp only [Op.runSpec, Op.spec, Function.update_same,
        upsertSpec_twice (by decide : ∀ b ∈ [(⟨"ip", none, some (.scalar (.str "10.0.0.1")), ""⟩ : DeviceAttribute)], b.Ordinary),
        upsertSpec_twice (by decide : ∀ b ∈ [(⟨"mac", none, some (.scalar (.str "00:11")), ""⟩ : DeviceAttribute)], b.Ordinary)]
      refine .some fun s n _ => ?_
      simp only [upsertSpec, mergeAttrs_append_comm (by decide : ∀ a ∈ [(⟨"mac", none, some (.scalar (.str "00:11")), ""⟩ : DeviceAttribute)],
        ∀ b ∈ [(⟨"ip", none, some (.scalar (.str "10.0.0.1")), ""⟩ : DeviceAttribute)], (a.effScope, a.name) ≠ (b.effScope, b.name))]
    · simp only [Op.runSpec, Op.spec, Function.update_noteq h]
      exact .none
  ⟨by decide, by decide, hS, getDevice_determined _ _ (by decide) (by decide) hS "a"⟩

end DeviceInventory
