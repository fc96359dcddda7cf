import DeviceInventory.Store.AttributeNames
import DeviceInventory.Store.Records

/-!
# The attribute name catalogue of the inventory

`GetAllAttributeNames` reads the `name` field of every attribute record of every
stored document.  In the abstract inventory of `DeviceInventory.Store.Inventory` a
record is the entry of a (scope, name) pair, and every call writes an entry whole
under its own pair's name: a merged attribute, a stamp, the group record
(`AttrMap.Named`, kept by every call of the spec, `Op.runSpec_named`).  On a
document of records whose map agrees with such an inventory map, the names the
records hold are the names of the pairs the map has a record for
(`Doc.Records.name_iff`), so the catalogue is the inventory's.

## Main definitions

* `AttrMap.Named`, `Inventory.Named` — every record is empty or names its pair.
* `Inventory.HasAttributeName` — some device of the inventory has a record for a
  pair of that name.

## Main statements

* `Op.runSpec_named` — every run of the spec keeps records named after their pairs.
* `getAllAttributeNames_of_namesOk` — on documents whose record names are strings,
  the call lists the names the records hold, each once.
* `attributeNames_refine` — after every run of valid, ordinary calls,
  `GetAllAttributeNames` lists, each once, exactly the names the inventory has
  records for.

## Design notes

The names listed include those of the three records the store writes itself,
`system-updated`, `system-created` and `system-group`: they are records of the
inventory as well, and `Inventory.HasAttributeName` does not set them apart.
-/

namespace DeviceInventory

/-! ### Records named after their pairs -/

/-- **Every record names its pair**: the record of `(s, n)` is empty, or its `name`
is `n`. -/
def AttrMap.Named (M : AttrMap) : Prop := ∀ p, M p = .empty ∨ (M p).name = some (.scalar (.str p.2))

/-- Every device's map of the inventory names its pairs. -/
def Inventory.Named (S : Inventory) : Prop := ∀ id M, S id = some M → AttrMap.Named M

section Named

variable {M : AttrMap} (hM : M.Named)
include hM

/-- An attribute merged into the record of a pair of its name keeps the map named. -/
theorem AttrMap.Named.update_merge {p : String × String} (e : Entry) {a : DeviceAttribute} (ha : a.name = p.2) :
    AttrMap.Named (Function.update M p (e.merge a)) := fun p' => by
  by_cases hp : p' = p
  · subst hp
    rw [Function.update_same]
    exact .inr (by rw [← ha]; rfl)
  · rw [Function.update_noteq hp]
    exact hM p'

theorem AttrMap.Named.update_empty (p : String × String) : AttrMap.Named (Function.update M p .empty) :=
    fun p' => by
  by_cases hp : p' = p
  · subst hp
    exact .inl (Function.update_same _ _ _)
  · rw [Function.update_noteq hp]
    exact hM p'

end Named

theorem mergeAttrs_named : ∀ {M : AttrMap} (A : List DeviceAttribute), M.Named → (mergeAttrs M A).Named
  | _, [], h => h
  | _, _ :: A, h => mergeAttrs_named A (h.update_merge _ rfl)

theorem upsertSpec_named {P : Option AttrMap} (hP : ∀ M, P = some M → M.Named) (attrs : List DeviceAttribute)
    (now : Int) : (upsertSpec P attrs now).Named := by
  have hbase : (P.getD fun _ => .empty).Named := by
    cases P with
    | none => exact fun _ => .inl rfl
    | some M => exact hP M rfl
  have hmerged := (mergeAttrs_named attrs hbase).update_merge Entry.empty
    (a := stamp attrNameUpdated now) (p := (attrScopeSystem, attrNameUpdated)) rfl
  unfold upsertSpec
  split_ifs
  · exact hmerged.update_merge _ (a := stamp attrNameCreated now) rfl
  · exact hmerged

theorem assignGroup_named (g : String) {M : AttrMap} (hM : M.Named) : (assignGroup g M).Named :=
  hM.update_merge _ (a := groupRecord g) rfl

theorem unassignGroup_named (g : String) {M : AttrMap} (hM : M.Named) : (unassignGroup g M).Named := by
  unfold unassignGroup
  split_ifs
  · exact hM.update_empty _
  · exact hM

section Inventory

variable {S : Inventory} (hS : Inventory.Named S)
include hS

theorem Inventory.Named.update (id : DeviceID) {o : Option AttrMap} (ho : ∀ M, o = some M → M.Named) :
    Inventory.Named (Function.update S id o) := fun id' M h => by
  by_cases hid : id' = id
  · subst hid
    rw [Function.update_same] at h
    exact ho M h
  · rw [Function.update_noteq hid] at h
    exact hS id' M h

/-- A device's map rewritten by a function that keeps maps named. -/
theorem Inventory.Named.map {f : AttrMap → AttrMap} (hf : ∀ M, M.Named → (f M).Named) (id : DeviceID) :
    ∀ M, (S id).map f = some M → M.Named := fun _ h => by
  obtain ⟨M, hM, rfl⟩ := Option.map_eq_some'.mp h
  exact hf M (hS id M hM)

/-- **Every call of the spec keeps records named after their pairs.** -/
theorem Op.spec_named (now : Int) (op : Op) : Inventory.Named (op.spec now S) := by
  cases op with
  | addDevice dev => exact hS.update _ fun _ h => Option.some.inj h ▸ upsertSpec_named (hS _) _ _
  | upsertAttributes id attrs => exact hS.update _ fun _ h => Option.some.inj h ▸ upsertSpec_named (hS _) _ _
  | updateDeviceGroup devId g => exact hS.update _ (hS.map (fun _ => assignGroup_named g) devId)
  | unsetDeviceGroup devId g => exact hS.update _ (hS.map (fun _ => unassignGroup_named g) devId)
  | deleteDevice devId => exact hS.update _ fun _ h => Option.noConfusion h
  | updateDevicesGroup ids g =>
      intro id M h
      simp only [Op.spec] at h
      split_ifs at h
      exacts [hS.map (fun _ => assignGroup_named g) id M h, hS id M h]
  | unsetDevicesGroup ids g =>
      intro id M h
      simp only [Op.spec] at h
      split_ifs at h
      exacts [hS.map (fun _ => unassignGroup_named g) id M h, hS id M h]

end Inventory

/-- **Every run of the spec keeps records named after their pairs.** -/
theorem Op.runSpec_named : ∀ (calls : List (Op × Int)) {S : Inventory}, Inventory.Named S →
    Inventory.Named (Op.runSpec calls S)
  | [], _, hS => hS
  | (op, now) :: calls, _, hS => Op.runSpec_named calls (Op.spec_named hS now op)

/-! ### The catalogue of the inventory -/

/-- **A name of the inventory's catalogue**: some device has a record for a pair of
the key convention with that name. -/
def Inventory.HasAttributeName (S : Inventory) (n : String) : Prop :=
  ∃ id M, S id = some M ∧ ∃ s, KeyConvention s n ∧ M (s, n) ≠ .empty

/-- **On a document of records, the names the records hold are the names of the
pairs its map has a record for**, read on any named map that agrees with it. -/
theorem Doc.Records.name_iff {d : Doc} (hd : d.Records) {M : AttrMap} (hdM : AttrMap.Agree d.attrMap M)
    (hM : M.Named) (n : String) :
    (∃ k, d.get [dbDevAttributes, k, dbDevAttributesName] = some (.scalar (.str n))) ↔
      ∃ s, KeyConvention s n ∧ M (s, n) ≠ .empty := by
  constructor
  · rintro ⟨k, hk⟩
    obtain ⟨s, n', hsn, sub, -, hpath⟩ := hd _ (mem_of_leafAt hk)
    obtain ⟨rfl, -⟩ : k = s ++ "-" ++ n' ∧ dbDevAttributesName = sub := by simpa using hpath
    -- the record of `(s, n')` names `n`, so it is there, and names its own pair
    have hname : (M (s, n')).name = some (.scalar (.str n)) := (congrArg Entry.name (hdM s n' hsn)).symm.trans hk
    rcases hM (s, n') with he | he
    · rw [he] at hname
      cases hname
    · obtain rfl : n' = n := by simpa [hname] using he.symm
      exact ⟨s, hsn, fun h => by rw [h] at hname; cases hname⟩
  · rintro ⟨s, hsn, hne⟩
    exact ⟨s ++ "-" ++ n, (congrArg Entry.name (hdM s n hsn)).trans ((hM (s, n)).resolve_left hne)⟩

/-! ### `GetAllAttributeNames` on the inventory -/

/-- On a store that fails nothing, the call decodes the distinct names the unwound
records carry. -/
theorem getAllAttributeNames_healthy (c : Collection) :
    getAllAttributeNames .healthy c =
      ((attributeKeyDocs c).filterMap (·.value? ["arrayofkeyvalue", "v", dbDevAttributesName])).dedup.mapM
        asAttributeName := by
  simp only [getAllAttributeNames, aggregateKeySet_attributes (Backend.healthy_fails _), Backend.healthy_fails,
    Option.isSome_none, Bool.false_eq_true, ite_false, groupAddToSet]
  split_ifs with hempty
  · rw [List.isEmpty_iff.mp hempty]
    rfl
  · rfl

/-- **On documents whose record names are strings, `GetAllAttributeNames` lists the
names the records hold, each once.** -/
theorem getAllAttributeNames_of_namesOk {c : Collection} (hc : ∀ d ∈ c.docs, d.NamesOk) :
    ∃ names, getAllAttributeNames .healthy c = .ok names ∧ names.Nodup ∧
      ∀ n, n ∈ names ↔
        ∃ d ∈ c.docs, ∃ k, d.get [dbDevAttributes, k, dbDevAttributesName] = some (.scalar (.str n)) := by
  have hvals := mem_attributeKeyDocs_names hc
  obtain ⟨names, hnames, heq⟩ := mapM_eq_ok_of_inverse (f := asAttributeName)
    (g := fun s => FieldValue.leaf (.scalar (.str s))) (fun _ => rfl) fun v hv =>
    let ⟨n, hn, _⟩ := (hvals v).mp (List.mem_dedup.mp hv)
    ⟨n, hn⟩
  refine ⟨names, by rw [getAllAttributeNames_healthy, hnames], ?_, fun n => ?_⟩
  · exact (heq ▸ List.nodup_dedup _ : (names.map fun s => FieldValue.leaf (.scalar (.str s))).Nodup).of_map _
  · have hmem : n ∈ names ↔ FieldValue.leaf (.scalar (.str n)) ∈ names.map fun s => .leaf (.scalar (.str s)) := by
      simp
    rw [hmem, ← heq, List.mem_dedup, hvals]
    simp [namePath]

/-- A valid call files every attribute one level below `attributes`. -/
theorem Op.Valid.dotFreeKeys {op : Op} (h : op.Valid) : op.DotFreeKeys := by
  cases op with
  | addDevice dev => exact fun a ha => ⟨(h a ha).1.2.1, (h a ha).1.2.2⟩
  | upsertAttributes id attrs => exact fun a ha => ⟨(h a ha).1.2.1, (h a ha).1.2.2⟩
  | _ => trivial

/-- **`GetAllAttributeNames` is the inventory's catalogue**: on a store that does not
fail, after every run of valid, ordinary calls from the empty collection, the call
returns without error a list of names, each once, that holds a name exactly when
some device of the inventory the same calls give has a record for a pair of that
name. -/
theorem attributeNames_refine (calls : List (Op × Int)) (h : ∀ call ∈ calls, call.1.Valid ∧ call.1.Ordinary) :
    ∃ names, getAllAttributeNames .healthy (Op.run .healthy calls Collection.empty) = .ok names ∧ names.Nodup ∧
      ∀ n, n ∈ names ↔ Inventory.HasAttributeName (Op.runSpec calls fun _ => none) n := by
  obtain ⟨names, hcall, hnodup, hnames⟩ := getAllAttributeNames_of_namesOk (namesOk_of_reachable
    (reachable_run .healthy calls .refl fun call hc => (h call hc).1.dotFreeKeys))
  have hN := Op.runSpec_named calls (S := fun _ => none) fun _ _ h => Option.noConfusion h
  refine ⟨names, hcall, hnodup, fun n => (hnames n).trans ⟨?_, ?_⟩⟩
  · rintro ⟨d, hd, hk⟩
    obtain ⟨M, hS, -, hrec, hdM⟩ := rel_some_left ((Collection.find?_eq_some_iff.mpr ⟨hd, rfl⟩) ▸ run_find? h d.id)
    exact ⟨d.id, M, hS, (hrec.name_iff hdM (hN _ M hS) n).mp hk⟩
  · rintro ⟨id, M, hS, hname⟩
    obtain ⟨d, hd, -, hrec, hdM⟩ := rel_some_right (hS ▸ run_find? h id)
    exact ⟨d, (Collection.find?_eq_some_iff.mp hd).1, (hrec.name_iff hdM (hN _ M hS) n).mpr hname⟩

/-- The device `a` added with a `mac` attribute to the group `g`. -/
theorem attributeNames_refine_mac :
    (∀ call ∈ [(Op.addDevice ⟨"a", [⟨"mac", none, some (.scalar (.str "00:11")), ""⟩], "g"⟩, (0 : Int))],
      call.1.Valid ∧ call.1.Ordinary) ∧
    ∃ names, getAllAttributeNames .healthy (Op.run .healthy
        [(Op.addDevice ⟨"a", [⟨"mac", none, some (.scalar (.str "00:11")), ""⟩], "g"⟩, (0 : Int))]
        Collection.empty) = .ok names ∧ names.Nodup ∧
      ∀ n, n ∈ names ↔ Inventory.HasAttributeName (Op.runSpec
        [(Op.addDevice ⟨"a", [⟨"mac", none, some (.scalar (.str "00:11")), ""⟩], "g"⟩, (0 : Int))] fun _ => none) n :=
  ⟨by decide, attributeNames_refine _ (by decide)⟩

end DeviceInventory
