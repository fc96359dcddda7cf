import DeviceInventory.Mongo.Unwind
import DeviceInventory.Store.Invariants

/-!
# The attribute name catalogue

`GetAllAttributeNames`: the `name` of every attribute record of every device, read
by an aggregation over the collection (`Mongo.Unwind`), each asserted to be a
string.

## Main definitions

* `asAttributeName`, `getAllAttributeNames` — the call.
* `namePath`, `NameLeaf`, `Doc.NamesOk` — the invariant the call needs: at or
  below the `name` of a record lies only that `name`, a string.
* `DeviceAttribute.DotFreeKey`, `Op.DotFreeKeys` — the calls that keep it: their
  attributes have a scope and a name without `.`, so that each record is filed one
  level below `attributes`.

## Main statements

* `namesOk_step` — every such call keeps the invariant of every device.
* `attributeNames_listed` — in every state runs of such calls reach,
  `GetAllAttributeNames` returns, without error, the names the records hold, each
  once.
* `attributeNames_dotted` — a name with a `.` is filed deeper: it is not listed,
  or, as `x.name`, it makes the call panic.

## Design notes

The catalogue reads records, not submissions: a name is listed while some
existing device has a record with that `name`, whichever call wrote the record
(`UpsertAttributes`, `AddDevice`, the group setters, and the stamps `updated` and
`created` every upsert writes).  `cursor.Next`'s result is ignored: when there is
no group to read, `cursor.Decode` returns `io.EOF`, and the call the empty list,
also when `cursor.Next` failed.  The group
always holds `allkeys` as an array, so its type assertion is not modelled.
-/

namespace DeviceInventory

/-! ### The call -/

/-- `d.(string)`: an element of the set, asserted to be a string. -/
def asAttributeName : FieldValue → Except Failure String
  | .leaf (.scalar (.str s)) => .ok s
  | _ => .error (.panic stringAssertion)

/-- **`GetAllAttributeNames`**: the set the aggregation collects in `allkeys`, each
element asserted to be a string; the empty list when there is no group to decode. -/
def getAllAttributeNames (net : Backend) (c : Collection) : Except Failure (List String) :=
  match aggregateKeySet net c "attributes" "arrayofkeyvalue" "arrayofkeyvalue.v.name" with
  | .error e => .error (.error (.mongo e))
  | .ok group =>
    match if (net.fails .cursorNext).isSome then none else group with
    | none => .ok []
    | some allkeys =>
      match net.fails .cursorDecode with
      | some e => .error (.error (.wrap "failed to get attributes" (.mongo e)))
      | none => allkeys.mapM asAttributeName

/-! ### The names the records hold -/

/-- The path of the `name` of the record under the key `k`, `attributes.<k>.name`. -/
def namePath (k : String) : Path := [dbDevAttributes, k, dbDevAttributesName]

/-- **A leaf that keeps record names readable**: a leaf at or below the `name` of a
record is that `name` itself, and a string. -/
def NameLeaf (f : Path × Leaf) : Prop :=
  ∀ k, namePath k <+: f.1 → f.1 = namePath k ∧ ∃ n, f.2 = .scalar (.str n)

/-- **The name invariant of one document**: each of its leaves keeps record names
readable. -/
def Doc.NamesOk (d : Doc) : Prop := ∀ f ∈ d.fields, NameLeaf f

/-- Under the invariant, a record's `name`, where there is one, is a string. -/
theorem Doc.NamesOk.get_name {d : Doc} (hd : d.NamesOk) {k : String}
    (hk : d.has (namePath k) = true) : ∃ n, d.get (namePath k) = some (.scalar (.str n)) := by
  obtain ⟨f, hf, hpre⟩ := Doc.has_iff.mp hk
  cases hget : d.get (namePath k) with
  | none => exact absurd (by rw [(hd f hf k hpre).1]; exact hget) (Doc.get_ne_none hf)
  | some l =>
      obtain ⟨n, hn⟩ := (hd _ (mem_of_leafAt hget) k List.prefix_rfl).2
      exact ⟨n, congrArg some hn⟩

/-- A leaf of a record, `attributes.<key>.<sub>`, keeps names readable when it is
not the `name`, or a string. -/
theorem nameLeaf_record {key sub : String} {l : Leaf}
    (h : sub = dbDevAttributesName → ∃ n, l = .scalar (.str n)) :
    NameLeaf ([dbDevAttributes, key, sub], l) := by
  intro k hk
  have heq := hk.eq_of_length rfl
  simp only [namePath, List.cons.injEq, true_and, and_true] at heq
  obtain ⟨rfl, rfl⟩ := heq
  exact ⟨rfl, h rfl⟩

/-- An attribute written whole at `attributes.<key>` keeps names readable: its
`name` is a string. -/
theorem nameLeaf_encode (key : String) (a : DeviceAttribute) {x : Path × Leaf}
    (hx : x ∈ a.encode) : NameLeaf ([dbDevAttributes, key] ++ x.1, x.2) := by
  obtain ⟨name, description, value, scope⟩ := a
  cases value <;> cases description <;>
    simp only [DeviceAttribute.encode, Option.map_some', Option.map_none', Option.getD_some,
      Option.getD_none, List.append_nil, List.nil_append, List.cons_append, List.singleton_append,
      List.mem_cons, List.mem_singleton, List.not_mem_nil, or_false] at hx <;>
    rcases hx with rfl | rfl | rfl | rfl <;>
    exact nameLeaf_record fun h => by first | exact ⟨_, rfl⟩ | exact absurd h (by decide)

/-- An assignment of a `$set` map whose every leaf keeps record names readable. -/
def WritesNames (kv : String × Subtree) : Prop := ∀ x ∈ kv.2, NameLeaf (fieldPath kv.1 ++ x.1, x.2)

/-! ### The calls that keep names readable -/

/-- **An attribute filed one level below `attributes`**: its effective scope and its
name are free of `.`. -/
def DeviceAttribute.DotFreeKey (a : DeviceAttribute) : Prop := DotFree a.effScope ∧ DotFree a.name

instance decidableDotFreeKey (a : DeviceAttribute) : Decidable a.DotFreeKey :=
  inferInstanceAs (Decidable (_ ∧ _))

/-- **The calls the name invariant admits**: their attributes are all filed one
level below `attributes`. -/
def Op.DotFreeKeys : Op → Prop
  | .addDevice dev => ∀ a ∈ dev.attributes, a.DotFreeKey
  | .upsertAttributes _ attrs => ∀ a ∈ attrs, a.DotFreeKey
  | _ => True

instance decidableOpDotFreeKeys : DecidablePred Op.DotFreeKeys := fun op => by
  cases op <;> unfold Op.DotFreeKeys <;> infer_instance

theorem DeviceAttribute.DotFreeKey.key {a : DeviceAttribute} (h : a.DotFreeKey) :
    DotFree (a.effScope ++ "-" ++ a.name) :=
  dotFree_append.mpr ⟨dotFree_append.mpr ⟨h.1, by decide⟩, h.2⟩

/-- The attributes a call with dot-free keys upserts have dot-free keys:
`AddDevice`'s group attribute is `system-group`. -/
theorem upserted_dotFreeKey {op : Op} (hop : op.DotFreeKeys) {id : DeviceID}
    {attrs : List DeviceAttribute}
    (h : op = .upsertAttributes id attrs ∨
      ∃ dev, op = .addDevice dev ∧ id = dev.id ∧ attrs = dev.upsertList) :
    ∀ a ∈ attrs, a.DotFreeKey := by
  rcases h with rfl | ⟨dev, rfl, -, rfl⟩
  · exact hop
  · unfold Device.upsertList
    split_ifs
    · exact fun a ha => (List.mem_append.mp ha).elim (hop a) fun ha =>
        List.mem_singleton.mp ha ▸ (by decide : DotFree attrScopeSystem ∧ DotFree attrNameGroup)
    · exact hop

theorem writesNames_single {a : DeviceAttribute} (ha : a.DotFreeKey) {sub : String}
    (hsub : sub ∈ attrSubFields) {x : Leaf} (hx : sub = dbDevAttributesName → x = .scalar (.str a.name)) :
    WritesNames (makeAttrField a.name a.effScope [sub], single x) := by
  intro y hy
  rw [single, List.mem_singleton] at hy
  subst hy
  rw [fieldPath_makeAttrField _ _ (dotFree_of_mem_attrSubFields hsub), fieldPath_of_dotFree ha.key]
  exact nameLeaf_record fun h => ⟨a.name, hx h⟩

theorem makeAttrUpsertFrom_writesNames : ∀ {m m' : List (String × Subtree)}
    {attrs : List DeviceAttribute}, (∀ a ∈ attrs, a.DotFreeKey) → (∀ kv ∈ m, WritesNames kv) →
    makeAttrUpsertFrom m attrs = .ok m' → ∀ kv ∈ m', WritesNames kv
  | _, _, [], _, hm, h => by cases h; exact hm
  | _, _, a :: rest, ha, hm, h => by
      simp only [makeAttrUpsertFrom] at h
      split at h
      · cases h
      · exact makeAttrUpsertFrom_writesNames (fun b hb => ha b (List.mem_cons_of_mem _ hb))
          (upsertAttr_of_mapInsert (P := fun m => ∀ kv ∈ m, WritesNames kv)
            (fun _ _ _ hsub hx ih kv hkv => (mem_mapInsert hkv).elim (ih kv) fun h =>
              h ▸ writesNames_single (ha a (List.mem_cons_self _ _)) hsub hx) hm) h

/-- **Every write of the update `UpsertAttributes` sends keeps record names
readable**, the stamps' included. -/
theorem upsertUpdate_writesNames {attrs : List DeviceAttribute} {m : List (String × Subtree)}
    (hm : makeAttrUpsert attrs = .ok m) (ha : ∀ a ∈ attrs, a.DotFreeKey) (now : Int) :
    ∀ kv ∈ (upsertUpdate m now).set ++ (upsertUpdate m now).setOnInsert, WritesNames kv := by
  intro kv hkv
  rcases List.mem_append.mp hkv with hkv | hkv
  · rcases mem_mapInsert hkv with hkv | rfl
    · exact makeAttrUpsertFrom_writesNames ha (fun _ h => absurd h (List.not_mem_nil _)) hm kv hkv
    · intro x hx
      rw [fieldPath_updatedField]
      exact nameLeaf_encode _ _ hx
  · rw [List.mem_singleton.mp hkv]
    intro x hx
    rw [fieldPath_createdField]
    exact nameLeaf_encode _ _ hx

theorem setGroupUpdate_writesNames (g : String) :
    ∀ kv ∈ (setGroupUpdate g).set ++ (setGroupUpdate g).setOnInsert, WritesNames kv := by
  intro kv hkv x hx
  simp only [setGroupUpdate, List.append_nil, List.mem_singleton] at hkv
  subst hkv
  rw [fieldPath_dbDevAttributesGroup]
  exact nameLeaf_encode _ _ hx

/-- **Every call with dot-free keys keeps the name invariant of every device.** -/
theorem namesOk_step (net : Backend) (now : Int) {op : Op} (hop : op.DotFreeKeys) {c : Collection}
    (hc : ∀ d ∈ c.docs, d.NamesOk) : ∀ e ∈ (op.step net now c).docs, e.NamesOk := by
  rcases op.step_cases net now c with
    ⟨_, _, hup, h | ⟨m, hm, hev⟩⟩ | ⟨_, g, -, hev⟩ | ⟨_, _, -, hev⟩ | ⟨_, -, hdel⟩
  · rwa [h]
  · have hw := upsertUpdate_writesNames hm (upserted_dotFreeKey hop hup) now
    exact hev.forall_docs hc (fun _ _ hd _ h => Update.apply_forall (Q := NameLeaf) h hw hd)
      fun _ _ _ h => Update.apply_forall (Q := NameLeaf) h hw fun _ h => absurd h (List.not_mem_nil _)
  · exact hev.forall_docs hc (fun _ _ hd _ h =>
      Update.apply_forall (Q := NameLeaf) h (setGroupUpdate_writesNames g) hd)
      fun h => absurd h Bool.false_ne_true
  · exact hev.forall_docs hc (fun _ _ hd _ h =>
      Update.apply_forall (Q := NameLeaf) h (fun _ h => absurd h (List.not_mem_nil _)) hd)
      fun h => absurd h Bool.false_ne_true
  · exact fun e he => hc e (mem_of_find?_drops hdel he)

theorem namesOk_of_reachable {c : Collection} (hc : Reachable Op.DotFreeKeys c) :
    ∀ d ∈ c.docs, d.NamesOk :=
  Reachable.invariant (P := fun c => ∀ d ∈ c.docs, d.NamesOk) (fun _ h => absurd h (List.not_mem_nil _))
    (fun net now _ _ hop ih => namesOk_step net now hop ih) hc

/-! ### What the call reads -/

/-- The documents the `$unwind` of `GetAllAttributeNames` makes: one per key of each
device's `attributes`. -/
def attributeKeyDocs (c : Collection) : List Doc :=
  c.docs.flatMap fun d => (d.keysUnder [dbDevAttributes]).map fun k =>
    (d.keyValue [dbDevAttributes] k).unwound "arrayofkeyvalue" d.id

/-- No leaf of a layout document sits at `attributes`. -/
theorem Doc.Layout.get_attributes {d : Doc} (hd : d.Layout) : d.get [dbDevAttributes] = none :=
  leafAt_eq_none fun f hf heq => by
    have := (hd f hf).2
    rw [heq] at this
    exact absurd this (by decide)

/-- **The group `GetAllAttributeNames`' pipeline makes** over the store's collection:
the distinct `name`s of the documents `$unwind` makes. -/
theorem aggregateKeySet_attributes {net : Backend} (hnet : net.fails .aggregate = none) (c : Collection) :
    aggregateKeySet net c "attributes" "arrayofkeyvalue" "arrayofkeyvalue.v.name" =
      .ok (groupAddToSet ["arrayofkeyvalue", "v", dbDevAttributesName] (attributeKeyDocs c)) := by
  have hfield : fieldPath "attributes" = [dbDevAttributes] := fieldPath_of_dotFree (by decide)
  have hpath : fieldPath "arrayofkeyvalue.v.name" = ["arrayofkeyvalue", "v", dbDevAttributesName] := by
    decide
  rw [aggregateKeySet_eq_ok hnet fun d hd => hfield ▸ (c.layout d hd).get_attributes, hfield, hpath]
  rfl

/-- Under the invariant, the document `$unwind` makes of the key `k` carries the
record's `name`, and nothing where the record has none. -/
theorem value?_name {d : Doc} (hd : d.NamesOk) (k : String) (id : DeviceID) :
    ((d.keyValue [dbDevAttributes] k).unwound "arrayofkeyvalue" id).value?
      ["arrayofkeyvalue", "v", dbDevAttributesName] = (d.get (namePath k)).map .leaf := by
  cases hhas : d.has (namePath k)
  · rw [value?_unwound_of_not_has (p := [dbDevAttributes]) (q := [dbDevAttributesName]) id hhas,
      Doc.get_eq_none_of_has hhas]
    rfl
  · obtain ⟨n, hn⟩ := hd.get_name hhas
    rw [value?_unwound_of_get (p := [dbDevAttributes]) (q := [dbDevAttributesName]) id hn, hn]
    rfl

/-- **The values the group collects are the names the records hold.** -/
theorem mem_attributeKeyDocs_names {c : Collection} (hc : ∀ d ∈ c.docs, d.NamesOk) (v : FieldValue) :
    v ∈ (attributeKeyDocs c).filterMap (·.value? ["arrayofkeyvalue", "v", dbDevAttributesName]) ↔
      ∃ n, v = .leaf (.scalar (.str n)) ∧
        ∃ d ∈ c.docs, ∃ k, d.get (namePath k) = some (.scalar (.str n)) := by
  simp only [attributeKeyDocs, List.mem_filterMap, List.mem_flatMap, List.mem_map]
  constructor
  · rintro ⟨_, ⟨d, hd, k, -, rfl⟩, hv⟩
    rw [value?_name (hc d hd)] at hv
    obtain ⟨l, hl, rfl⟩ := Option.map_eq_some'.mp hv
    obtain ⟨n, hn⟩ := (hc d hd).get_name (Doc.has_of_get hl List.prefix_rfl)
    exact ⟨n, by rw [hn] at hl; cases hl; rfl, d, hd, k, hn⟩
  · rintro ⟨n, rfl, d, hd, k, hn⟩
    have hk : k ∈ d.keysUnder [dbDevAttributes] :=
      mem_keysUnder.mpr (Doc.has_of_get hn (List.prefix_append [dbDevAttributes, k] _))
    exact ⟨_, ⟨d, hd, k, hk, rfl⟩, by rw [value?_name (hc d hd), hn]; rfl⟩

/-- **In every state runs of calls with dot-free keys reach, the empty collection
included, `GetAllAttributeNames` returns, without error, the names the devices'
attribute records hold, each once**: a name is listed exactly when some device has
a record, `attributes.<key>`, whose `name` is that name. -/
theorem attributeNames_listed {c : Collection} (hc : Reachable Op.DotFreeKeys c) :
    ∃ names, getAllAttributeNames .healthy c = .ok names ∧ names.Nodup ∧
      ∀ n, n ∈ names ↔
        ∃ d ∈ c.docs, ∃ k, d.get [dbDevAttributes, k, dbDevAttributesName] = some (.scalar (.str n)) := by
  have hinv := namesOk_of_reachable hc
  have hvals := mem_attributeKeyDocs_names hinv
  set vals := (attributeKeyDocs c).filterMap (·.value? ["arrayofkeyvalue", "v", dbDevAttributesName])
  have hstored : ∀ n, FieldValue.leaf (.scalar (.str n)) ∈ vals ↔
      ∃ d ∈ c.docs, ∃ k, d.get [dbDevAttributes, k, dbDevAttributesName] = some (.scalar (.str n)) :=
    fun n => by simp [hvals, namePath]
  have hcall : getAllAttributeNames .healthy c =
      if (attributeKeyDocs c).isEmpty then .ok [] else vals.dedup.mapM asAttributeName := by
    simp only [getAllAttributeNames, aggregateKeySet_attributes (Backend.healthy_fails _),
      Backend.healthy_fails, Option.isSome_none, Bool.false_eq_true, ite_false, groupAddToSet]
    split_ifs <;> rfl
  by_cases hempty : (attributeKeyDocs c).isEmpty
  · have hnil : vals = [] := by simp [vals, List.isEmpty_iff.mp hempty]
    refine ⟨[], by rw [hcall, if_pos hempty], List.nodup_nil, fun n => ?_⟩
    rw [← hstored, hnil]
    simp
  · obtain ⟨names, hnames, heq⟩ := mapM_eq_ok_of_inverse (f := asAttributeName)
      (g := fun s => FieldValue.leaf (.scalar (.str s))) (fun _ => rfl) fun v hv =>
      let ⟨n, hn, _⟩ := (hvals v).mp (List.mem_dedup.mp hv)
      ⟨n, hn⟩
    refine ⟨names, by rw [hcall, if_neg hempty, hnames], ?_, fun n => ?_⟩
    · exact (heq ▸ List.nodup_dedup vals :
        (names.map fun s => FieldValue.leaf (.scalar (.str s))).Nodup).of_map _
    · rw [← hstored, ← List.mem_dedup (l := vals), heq]
      simp

/-- The device `a` with the attribute `mac`: the catalogue is `mac` and the stamps. -/
theorem attributeNames_listed_mac :
    Reachable Op.DotFreeKeys ((Op.upsertAttributes "a" [⟨"mac", none, some (.scalar (.num 1)), ""⟩]).step
      .healthy 0 Collection.empty) ∧
    ∃ names, getAllAttributeNames .healthy ((Op.upsertAttributes "a"
        [⟨"mac", none, some (.scalar (.num 1)), ""⟩]).step .healthy 0 Collection.empty) = .ok names ∧
      names.Nodup ∧ ∀ n, n ∈ names ↔ ∃ d ∈ ((Op.upsertAttributes "a"
        [⟨"mac", none, some (.scalar (.num 1)), ""⟩]).step .healthy 0 Collection.empty).docs,
          ∃ k, d.get [dbDevAttributes, k, dbDevAttributesName] = some (.scalar (.str n)) :=
  ⟨.single ⟨.healthy, 0, _, by decide, rfl⟩,
    attributeNames_listed (.single ⟨.healthy, 0, _, by decide, rfl⟩)⟩

/-- **A name with a `.` is filed below a deeper path.**  `a.b`, stored by an upsert
that succeeds at `attributes.inventory-a.b.name`, is not listed; `x.name` puts the
record's fields below its `name`, so that the set holds a document, and the type
assertion panics. -/
theorem attributeNames_dotted :
    let upserted := fun name : String =>
      (Op.upsertAttributes "a" [⟨name, none, some (.scalar (.num 1)), ""⟩]).step .healthy 0 Collection.empty
    (upsertAttributes .healthy 0 Collection.empty "a"
      [⟨"a.b", none, some (.scalar (.num 1)), ""⟩]).1 = .ok () ∧
    (upserted "a.b").docs.map (·.get [dbDevAttributes, "inventory-a", "b", dbDevAttributesName]) =
      [some (.scalar (.str "a.b"))] ∧
    getAllAttributeNames .healthy (upserted "a.b") = .ok [attrNameCreated, attrNameUpdated] ∧
    getAllAttributeNames .healthy (upserted "x.name") = .error (.panic stringAssertion) := by
  decide

end DeviceInventory
