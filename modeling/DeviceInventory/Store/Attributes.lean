import DeviceInventory.Store.Model

/-!
# The attribute merge

`UpsertAttributes` turns a batch of submitted attributes into one update
document and sends it as a single upsert on the device's document:

* `makeAttrUpsert` checks every name, defaults an empty scope to `inventory`,
  and for each attribute assigns `attributes.<scope>-<name>.scope` and `.name`,
  and `.value` and `.description` when they are set, in one `bson.M`;
* `UpsertAttributes` adds `attributes.system-updated` to the `$set`s and
  `attributes.system-created` as the only `$setOnInsert`, both stamped with the
  call's clock reading.

`AddDevice` materialises a non-empty group as a system attribute and upserts.

## Main definitions

* `makeAttrField`, `mapInsert`, `makeAttrUpsert`, `upsertUpdate`,
  `upsertAttributes`, `addDevice`.
* `AttrAssignment` — what every entry of the `$set` map is: a single value for
  a field of a submitted attribute's record.
* `KeyConvention` — scopes without `-` or `.`, names without `.`: the keys
  under which `attributes.<scope>-<name>` is one segment and determines the pair.

## Main statements

* `upsertUpdate_shaped` — the update `UpsertAttributes` sends writes only inside
  attribute records.
* `fieldPaths_disjoint` — under the key convention, distinct attributes are
  written to disjoint places; `makeAttrField_not_disjoint` — without it they
  are not.
* `empty_name_refused` — `UpsertAttributes` and `AddDevice` fail with
  `ErrNoAttrName` exactly for a batch holding an attribute without a name, and
  then change nothing.
-/

namespace DeviceInventory

/-- `makeAttrField`: `attributes.<scope>-<name>`, with the sub-fields joined on by dots. -/
def makeAttrField (attrName attrScope : String) (subFields : List String) : String :=
  let field := dbDevAttributes ++ "." ++ attrScope ++ "-" ++ attrName
  if subFields.length > 0 then String.intercalate "." (field :: subFields) else field

/-- A `bson.M` assignment `m[k] = v`.  A Go map has no order; the model keeps the
key assigned last at the end. -/
def mapInsert (m : List (String × Subtree)) (k : String) (v : Subtree) : List (String × Subtree) :=
  m.filter (fun kv => kv.1 ≠ k) ++ [(k, v)]

/-- The value of `k` in a `bson.M`. -/
def mapGet (m : List (String × Subtree)) (k : String) : Option Subtree :=
  (m.find? fun kv => decide (kv.1 = k)).map (·.2)

/-- The scope `makeAttrUpsert` files an attribute under: an empty scope is the
inventory scope. -/
def DeviceAttribute.effScope (a : DeviceAttribute) : String :=
  if a.scope = "" then attrScopeInventory else a.scope

/-- A single value, as a `$set` writes it. -/
def single (v : Leaf) : Subtree := [([], v)]

/-- The assignments `makeAttrUpsert` makes for one attribute. -/
def upsertAttr (upsert : List (String × Subtree)) (a : DeviceAttribute) :
    List (String × Subtree) :=
  let scope := a.effScope
  let upsert := mapInsert upsert (makeAttrField a.name scope [dbDevAttributesScope])
    (single (.scalar (.str scope)))
  let upsert := mapInsert upsert (makeAttrField a.name scope [dbDevAttributesName])
    (single (.scalar (.str a.name)))
  let upsert := match a.value with
    | some v => mapInsert upsert (makeAttrField a.name scope [dbDevAttributesValue]) (single v)
    | none => upsert
  match a.description with
    | some s => mapInsert upsert (makeAttrField a.name scope [dbDevAttributesDesc])
        (single (.scalar (.str s)))
    | none => upsert

/-- The loop of `makeAttrUpsert`, from the assignments made so far. -/
def makeAttrUpsertFrom (upsert : List (String × Subtree)) :
    List DeviceAttribute → Except StoreError (List (String × Subtree))
  | [] => .ok upsert
  | a :: rest =>
    if a.name = "" then .error .noAttrName
    else makeAttrUpsertFrom (upsertAttr upsert a) rest

/-- **`makeAttrUpsert`**: the `$set` map of a batch of attributes, or
`ErrNoAttrName` at the first attribute without a name. -/
def makeAttrUpsert (attrs : List DeviceAttribute) : Except StoreError (List (String × Subtree)) :=
  makeAttrUpsertFrom [] attrs

/-- `updatedField`: `attributes.system-updated`. -/
def updatedField : String := dbDevAttributes ++ "." ++ attrScopeSystem ++ "-" ++ attrNameUpdated

/-- `createdField`: `attributes.system-created`. -/
def createdField : String := dbDevAttributes ++ "." ++ attrScopeSystem ++ "-" ++ attrNameCreated

/-- A system attribute stamped with the clock reading `now`. -/
def stamp (name : String) (now : Int) : DeviceAttribute :=
  ⟨name, none, some (.scalar (.date now)), attrScopeSystem⟩

/-- The update document `UpsertAttributes` sends, from the map of `makeAttrUpsert`. -/
def upsertUpdate (upsert : List (String × Subtree)) (now : Int) : Update where
  set := mapInsert upsert updatedField (stamp attrNameUpdated now).encode
  setOnInsert := [(createdField, (stamp attrNameCreated now).encode)]
  unset := []


/-! ### The field names the merge writes -/

theorem makeAttrField_single (n s sub : String) :
    makeAttrField n s [sub] = dbDevAttributes ++ "." ++ (s ++ "-" ++ n) ++ "." ++ sub := by
  simp [makeAttrField, String.intercalate, String.intercalate.go, String.append_assoc]

/-- **The path the server reads off `attributes.<scope>-<name>.<sub>`.** -/
theorem fieldPath_makeAttrField (n s : String) {sub : String} (hsub : DotFree sub) :
    fieldPath (makeAttrField n s [sub]) = dbDevAttributes :: fieldPath (s ++ "-" ++ n) ++ [sub] := by
  rw [makeAttrField_single, fieldPath_append_dot, fieldPath_append_dot,
    fieldPath_of_dotFree hsub, fieldPath_of_dotFree (by decide : DotFree dbDevAttributes)]
  rfl

/-- The four sub-fields of an attribute record. -/
def attrSubFields : List String :=
  [dbDevAttributesScope, dbDevAttributesName, dbDevAttributesValue, dbDevAttributesDesc]

theorem dotFree_of_mem_attrSubFields {sub : String} (h : sub ∈ attrSubFields) : DotFree sub := by
  simp only [attrSubFields, List.mem_cons, List.mem_singleton, List.not_mem_nil, or_false] at h
  rcases h with rfl | rfl | rfl | rfl <;> decide

/-- Every sub-field name `makeAttrField` builds lies inside an attribute record. -/
theorem layoutPath_makeAttrField (n s : String) {sub : String} (hsub : DotFree sub) :
    LayoutPath (fieldPath (makeAttrField n s [sub])) := by
  rw [fieldPath_makeAttrField n s hsub]
  have := fieldPath_ne_nil (s ++ "-" ++ n)
  refine ⟨rfl, ?_⟩
  have : 1 ≤ (fieldPath (s ++ "-" ++ n)).length := List.length_pos.mpr this
  simp only [List.length_cons, List.length_append, List.length_singleton]
  omega

theorem mem_mapInsert {m : List (String × Subtree)} {k : String} {v : Subtree}
    {kv : String × Subtree} (h : kv ∈ mapInsert m k v) : kv ∈ m ∨ kv = (k, v) := by
  simp only [mapInsert, List.mem_append, List.mem_filter, List.mem_singleton] at h
  exact h.imp And.left id

/-- An assignment that writes one value inside an attribute record. -/
def RecordWrite (kv : String × Subtree) : Prop := WritesInLayout (fieldPath kv.1) kv.2

theorem recordWrite_single (n s : String) {sub : String} (hsub : DotFree sub) (v : Leaf) :
    RecordWrite (makeAttrField n s [sub], single v) := by
  intro x hx
  rw [single, List.mem_singleton] at hx
  subst hx
  simpa using layoutPath_makeAttrField n s hsub

/-- A property of `$set` maps that every assignment to a field of the attribute's
record keeps is kept by `upsertAttr`; the assignment to `name` is the attribute's
name. -/
theorem upsertAttr_of_mapInsert {P : List (String × Subtree) → Prop} {a : DeviceAttribute}
    (step : ∀ m sub x, sub ∈ attrSubFields → (sub = dbDevAttributesName → x = .scalar (.str a.name)) →
      P m → P (mapInsert m (makeAttrField a.name a.effScope [sub]) (single x)))
    {m : List (String × Subtree)} (hm : P m) : P (upsertAttr m a) := by
  unfold upsertAttr
  cases a.value <;> cases a.description <;>
    repeat (first | exact hm |
      refine step _ _ _ (by simp [attrSubFields]) (fun h => by first | rfl | exact absurd h (by decide)) ?_)

/-- **An assignment of `makeAttrUpsert`**: a single value for one field of the
record of a submitted attribute. -/
def AttrAssignment (attrs : List DeviceAttribute) (kv : String × Subtree) : Prop :=
  ∃ a ∈ attrs, ∃ sub ∈ attrSubFields, ∃ x, kv = (makeAttrField a.name a.effScope [sub], single x)

theorem AttrAssignment.recordWrite {attrs : List DeviceAttribute} {kv : String × Subtree}
    (h : AttrAssignment attrs kv) : RecordWrite kv := by
  obtain ⟨_, _, _, hsub, x, rfl⟩ := h
  exact recordWrite_single _ _ (dotFree_of_mem_attrSubFields hsub) x

/-- Every assignment of the map of `makeAttrUpsert` was there at the start, or
belongs to a submitted attribute. -/
theorem makeAttrUpsertFrom_assignment : ∀ {m m' : List (String × Subtree)}
    {attrs : List DeviceAttribute}, makeAttrUpsertFrom m attrs = .ok m' →
    ∀ kv ∈ m', kv ∈ m ∨ AttrAssignment attrs kv
  | _, _, [], h => by cases h; exact fun kv hkv => .inl hkv
  | m, _, a :: rest, h => by
      simp only [makeAttrUpsertFrom] at h
      split at h
      · cases h
      · have ha : ∀ kv ∈ upsertAttr m a, kv ∈ m ∨ AttrAssignment [a] kv :=
          upsertAttr_of_mapInsert (P := fun m' => ∀ kv ∈ m', kv ∈ m ∨ AttrAssignment [a] kv)
            (fun _ _ _ hsub _ ih kv hkv => (mem_mapInsert hkv).elim (ih kv)
            fun h => .inr ⟨a, List.mem_singleton_self a, _, hsub, _, h⟩) fun kv hkv => .inl hkv
        intro kv hkv
        rcases makeAttrUpsertFrom_assignment h kv hkv with hkv | ⟨b, hb, hrest⟩
        · exact (ha kv hkv).imp_right fun ⟨b, hb, hrest⟩ =>
            ⟨b, List.mem_singleton.mp hb ▸ List.mem_cons_self a rest, hrest⟩
        · exact .inr ⟨b, List.mem_cons_of_mem a hb, hrest⟩

/-- **The map of `makeAttrUpsert` assigns each field once.** -/
theorem mapInsert_nodup {m : List (String × Subtree)} {k : String} {v : Subtree}
    (hm : (m.map Prod.fst).Nodup) : ((mapInsert m k v).map Prod.fst).Nodup := by
  rw [mapInsert, List.map_append, List.nodup_append]
  refine ⟨hm.sublist ((List.filter_sublist _).map _), List.nodup_singleton _, ?_⟩
  intro x hx hx'
  obtain ⟨kv, hkv, rfl⟩ := List.mem_map.mp hx
  simp only [List.map_cons, List.map_nil, List.mem_singleton] at hx'
  exact (of_decide_eq_true (List.mem_filter.mp hkv).2) hx'

theorem makeAttrUpsertFrom_nodup : ∀ {m m' : List (String × Subtree)}
    {attrs : List DeviceAttribute}, (m.map Prod.fst).Nodup →
    makeAttrUpsertFrom m attrs = .ok m' → (m'.map Prod.fst).Nodup
  | _, _, [], hm, h => by cases h; exact hm
  | _, _, a :: rest, hm, h => by
      simp only [makeAttrUpsertFrom] at h
      split at h
      · cases h
      · exact makeAttrUpsertFrom_nodup
          (upsertAttr_of_mapInsert (P := fun m => (m.map Prod.fst).Nodup)
            (fun _ _ _ _ _ ih => mapInsert_nodup ih) hm) h

/-- With every name set, `makeAttrUpsert` returns a map. -/
theorem makeAttrUpsertFrom_ok : ∀ {m : List (String × Subtree)} {attrs : List DeviceAttribute},
    (∀ a ∈ attrs, a.name ≠ "") → ∃ m', makeAttrUpsertFrom m attrs = .ok m'
  | m, [], _ => ⟨m, rfl⟩
  | m, a :: rest, h => by
      simp only [makeAttrUpsertFrom, if_neg (h a (List.mem_cons_self a rest))]
      exact makeAttrUpsertFrom_ok fun b hb => h b (List.mem_cons_of_mem a hb)

/-- **`makeAttrUpsert` fails exactly on a batch with an attribute without a name**,
and then with `ErrNoAttrName`. -/
theorem makeAttrUpsertFrom_error : ∀ {m : List (String × Subtree)} {attrs : List DeviceAttribute}
    {e : StoreError}, makeAttrUpsertFrom m attrs = .error e ↔ e = .noAttrName ∧ ∃ a ∈ attrs, a.name = ""
  | _, [], _ => by simp [makeAttrUpsertFrom]
  | _, a :: rest, _ => by
      by_cases ha : a.name = ""
      · simp only [makeAttrUpsertFrom, ha, ite_true, Except.error.injEq]
        exact ⟨fun h => ⟨h.symm, a, List.mem_cons_self _ _, ha⟩, fun h => h.1.symm⟩
      · rw [makeAttrUpsertFrom, if_neg ha, makeAttrUpsertFrom_error]
        simp [ha]

/-- The field `attributes.<key>`. -/
theorem fieldPath_attributes (k : String) :
    fieldPath (dbDevAttributes ++ "." ++ k) = dbDevAttributes :: fieldPath k := by
  rw [fieldPath_append_dot, fieldPath_of_dotFree (by decide : DotFree dbDevAttributes)]
  rfl

/-- Every leaf of an encoded attribute sits one level below the field it is written to. -/
theorem length_of_mem_encode {a : DeviceAttribute} {x : Path × Leaf} (hx : x ∈ a.encode) :
    x.1.length = 1 := by
  obtain ⟨name, description, value, scope⟩ := a
  cases value <;> cases description <;> simp [DeviceAttribute.encode] at hx <;>
    rcases hx with rfl | rfl | rfl | rfl <;> rfl

/-- An attribute written whole as `attributes.<key>` lands inside its record. -/
theorem writesInLayout_encode (k : String) (a : DeviceAttribute) :
    WritesInLayout (fieldPath (dbDevAttributes ++ "." ++ k)) a.encode := by
  intro x hx
  rw [fieldPath_attributes]
  have := List.length_pos.mpr (fieldPath_ne_nil k)
  refine ⟨rfl, ?_⟩
  simp only [List.cons_append, List.length_cons, List.length_append, length_of_mem_encode hx]
  omega

theorem system_field (name : String) :
    dbDevAttributes ++ "." ++ attrScopeSystem ++ "-" ++ name =
      dbDevAttributes ++ "." ++ (attrScopeSystem ++ "-" ++ name) := by
  simp only [String.append_assoc]

/-- **The update `UpsertAttributes` sends writes only inside attribute records.** -/
theorem upsertUpdate_shaped {attrs : List DeviceAttribute} {m : List (String × Subtree)}
    (h : makeAttrUpsert attrs = .ok m) (now : Int) : (upsertUpdate m now).Shaped := by
  have hm : ∀ kv ∈ m, RecordWrite kv := fun kv hkv =>
    ((makeAttrUpsertFrom_assignment h kv hkv).resolve_left (List.not_mem_nil _)).recordWrite
  intro kv hkv
  simp only [upsertUpdate, List.mem_append, List.mem_singleton] at hkv
  rcases hkv with hkv | rfl
  · rcases mem_mapInsert hkv with hkv | rfl
    · exact hm kv hkv
    · simpa only [updatedField, system_field] using writesInLayout_encode _ _
  · simpa only [createdField, system_field] using writesInLayout_encode _ _

/-! ### The key convention -/

/-- **The store's key convention**: a scope without `-` or `.`, a name without `.`.
Under it `<scope>-<name>` is a single segment, and the segment gives the pair back. -/
def KeyConvention (scope name : String) : Prop := '-' ∉ scope.data ∧ DotFree scope ∧ DotFree name

instance (scope name : String) : Decidable (KeyConvention scope name) :=
  inferInstanceAs (Decidable (_ ∧ _ ∧ _))

/-- A separator absent from both heads splits two lists at the same place. -/
theorem append_sep_inj {α : Type} {c : α} :
    ∀ {x₁ x₂ z₁ z₂ : List α}, c ∉ x₁ → c ∉ x₂ → x₁ ++ c :: z₁ = x₂ ++ c :: z₂ →
      x₁ = x₂ ∧ z₁ = z₂
  | [], [], _, _, _, _, h => ⟨rfl, List.cons.inj h |>.2⟩
  | [], y :: x₂, _, _, _, h₂, h => absurd ((List.cons.inj h).1 ▸ List.mem_cons_self y x₂) h₂
  | x :: x₁, [], _, _, h₁, _, h => absurd ((List.cons.inj h).1 ▸ List.mem_cons_self x x₁) h₁
  | x :: x₁, y :: x₂, _, _, h₁, h₂, h => by
      simp only [List.cons_append, List.cons.injEq] at h
      obtain ⟨rfl, ht⟩ := h
      obtain ⟨rfl, rfl⟩ := append_sep_inj (List.not_mem_of_not_mem_cons h₁)
        (List.not_mem_of_not_mem_cons h₂) ht
      exact ⟨rfl, rfl⟩

/-- **Under the convention the storage key gives the pair back.** -/
theorem attrKey_inj {s₁ n₁ s₂ n₂ : String} (h₁ : '-' ∉ s₁.data) (h₂ : '-' ∉ s₂.data)
    (h : s₁ ++ "-" ++ n₁ = s₂ ++ "-" ++ n₂) : s₁ = s₂ ∧ n₁ = n₂ := by
  have h' : s₁.data ++ '-' :: n₁.data = s₂.data ++ '-' :: n₂.data := by
    simpa using congrArg String.data h
  obtain ⟨hs, hn⟩ := append_sep_inj h₁ h₂ h'
  exact ⟨String.ext hs, String.ext hn⟩

theorem dotFree_attrKey {s n : String} (h : KeyConvention s n) : DotFree (s ++ "-" ++ n) := by
  simp only [DotFree, String.data_append, List.mem_append] at h ⊢
  exact fun hm => hm.elim (fun hm => hm.elim h.2.1 (by decide)) h.2.2

/-- Under the convention, `attributes.<scope>-<name>.<sub>` is three segments. -/
theorem fieldPath_makeAttrField_of_convention {s n sub : String} (h : KeyConvention s n)
    (hsub : DotFree sub) :
    fieldPath (makeAttrField n s [sub]) = [dbDevAttributes, s ++ "-" ++ n, sub] := by
  rw [fieldPath_makeAttrField n s hsub, fieldPath_of_dotFree (dotFree_attrKey h)]
  rfl

/-- Two record fields written under the convention conflict only when they are one field. -/
theorem makeAttrField_conflicting {s₁ n₁ s₂ n₂ sub₁ sub₂ : String}
    (h₁ : KeyConvention s₁ n₁) (h₂ : KeyConvention s₂ n₂) (hsub₁ : DotFree sub₁)
    (hsub₂ : DotFree sub₂)
    (hc : Conflicting (fieldPath (makeAttrField n₁ s₁ [sub₁]))
      (fieldPath (makeAttrField n₂ s₂ [sub₂]))) :
    s₁ = s₂ ∧ n₁ = n₂ ∧ sub₁ = sub₂ := by
  rw [fieldPath_makeAttrField_of_convention h₁ hsub₁,
    fieldPath_makeAttrField_of_convention h₂ hsub₂] at hc
  have heq : [dbDevAttributes, s₁ ++ "-" ++ n₁, sub₁] = [dbDevAttributes, s₂ ++ "-" ++ n₂, sub₂] := by
    rcases hc with hc | hc
    · exact hc.eq_of_length rfl
    · exact (hc.eq_of_length rfl).symm
  simp only [List.cons.injEq, and_true, true_and] at heq
  obtain ⟨hs, hn⟩ := attrKey_inj h₁.1 h₂.1 heq.1
  exact ⟨hs, hn, heq.2⟩

/-- The field paths `makeAttrUpsert` can write for an attribute: its `.scope`,
`.name`, `.value` and `.description`. -/
def DeviceAttribute.fieldPaths (a : DeviceAttribute) : List Path :=
  attrSubFields.map fun sub => fieldPath (makeAttrField a.name a.effScope [sub])

/-- **Distinct attributes are written to disjoint places**, when both follow the
key convention: no field path of the one equals, or lies above or below, a field
path of the other. -/
theorem fieldPaths_disjoint {a b : DeviceAttribute} (ha : KeyConvention a.effScope a.name)
    (hb : KeyConvention b.effScope b.name) (hne : (a.effScope, a.name) ≠ (b.effScope, b.name)) :
    ∀ p ∈ a.fieldPaths, ∀ q ∈ b.fieldPaths, ¬ Conflicting p q := by
  simp only [DeviceAttribute.fieldPaths, List.mem_map]
  rintro _ ⟨sub₁, hsub₁, rfl⟩ _ ⟨sub₂, hsub₂, rfl⟩ hc
  obtain ⟨hs, hn, -⟩ := makeAttrField_conflicting ha hb (dotFree_of_mem_attrSubFields hsub₁)
    (dotFree_of_mem_attrSubFields hsub₂) hc
  exact hne (by rw [hs, hn])

/-- `mac` and `sn` in the inventory scope are written to disjoint places. -/
theorem fieldPaths_disjoint_mac_sn :
    KeyConvention attrScopeInventory "mac" ∧ KeyConvention attrScopeInventory "sn" ∧
      ∀ p ∈ (⟨"mac", none, none, ""⟩ : DeviceAttribute).fieldPaths,
        ∀ q ∈ (⟨"sn", none, none, ""⟩ : DeviceAttribute).fieldPaths, ¬ Conflicting p q :=
  ⟨by decide, by decide, fieldPaths_disjoint (by decide) (by decide) (by decide)⟩

/-- **Without the convention the encoding is not injective, nor prefix-free**:
the scope `a-b` with the name `c` and the scope `a` with the name `b-c` write the
same fields, and the name `x.value` writes below the value of the name `x`. -/
theorem makeAttrField_not_disjoint :
    (∃ m, makeAttrUpsert [⟨"c", none, none, "a-b"⟩, ⟨"b-c", none, none, "a"⟩] = .ok m) ∧
      ("a-b", "c") ≠ ("a", "b-c") ∧
      fieldPath (makeAttrField "c" "a-b" [dbDevAttributesScope]) =
        fieldPath (makeAttrField "b-c" "a" [dbDevAttributesScope]) ∧
    (∃ m, makeAttrUpsert [⟨"x", none, none, ""⟩, ⟨"x.value", none, none, ""⟩] = .ok m) ∧
      fieldPath (makeAttrField "x" attrScopeInventory [dbDevAttributesValue]) <+:
        fieldPath (makeAttrField "x.value" attrScopeInventory [dbDevAttributesScope]) :=
  ⟨⟨_, rfl⟩, by decide, by decide, ⟨_, rfl⟩, by decide⟩

/-! ### The operations -/

/-- **`UpsertAttributes`**: the merge of a batch of attributes into the device's
document, as one upsert stamped with the clock reading `now`. -/
def upsertAttributes (net : Backend) (now : Int) (c : Collection) (id : DeviceID)
    (attrs : List DeviceAttribute) : Except Failure Unit × Collection :=
  match h : makeAttrUpsert attrs with
  | .error e => (.error (.error e), c)
  | .ok upsert =>
    match upsertOne net c id (upsertUpdate upsert now) (upsertUpdate_shaped h now) with
    | (.error e, c') => (.error (.error (.mongo e)), c')
    | (.ok _, c') => (.ok (), c')

/-- The system attribute `AddDevice` files a device's group under. -/
def groupAttribute (group : String) : DeviceAttribute :=
  ⟨attrNameGroup, none, some (.scalar (.str group)), attrScopeSystem⟩

/-- **`AddDevice`**: the device's attributes, with its group when it has one, upserted. -/
def addDevice (net : Backend) (now : Int) (c : Collection) (dev : Device) :
    Except Failure Unit × Collection :=
  let attrs := if dev.group ≠ "" then dev.attributes ++ [groupAttribute dev.group]
    else dev.attributes
  match upsertAttributes net now c dev.id attrs with
  | (.error (.error e), c') => (.error (.error (.wrap "failed to store device" e)), c')
  | r => r

/-! ### Attributes without a name -/

section NoAttrName

variable {net : Backend} {now : Int} {c : Collection} {id : DeviceID} {attrs : List DeviceAttribute}

/-- A batch `makeAttrUpsert` refuses ends the upsert before any command, with the
collection as it was. -/
theorem upsertAttributes_of_error {e : StoreError} (h : makeAttrUpsert attrs = .error e) :
    upsertAttributes net now c id attrs = (.error (.error e), c) := by
  unfold upsertAttributes
  split <;> rename_i heq <;> rw [heq] at h <;> cases h
  rfl

/-- Once the map is built, the only errors of the upsert are the server's. -/
theorem upsertAttributes_cause_of_named (h : ∀ a ∈ attrs, a.name ≠ "") {e : StoreError}
    (he : (upsertAttributes net now c id attrs).1 = .error (.error e)) : e.cause ≠ .noAttrName := by
  obtain ⟨m, hm⟩ : ∃ m, makeAttrUpsert attrs = .ok m := makeAttrUpsertFrom_ok h
  unfold upsertAttributes at he
  split at he
  · rename_i heq; rw [heq] at hm; cases hm
  · split at he
    · cases he; simp [StoreError.cause]
    · cases he

/-- **`UpsertAttributes` reports `ErrNoAttrName` exactly for a batch with an attribute
without a name**, and then issues no command and leaves the collection as it was. -/
theorem upsertAttributes_noAttrName :
    ((∃ e, (upsertAttributes net now c id attrs).1 = .error (.error e) ∧ e.cause = .noAttrName) ↔
      ∃ a ∈ attrs, a.name = "") ∧
    ((∃ a ∈ attrs, a.name = "") →
      upsertAttributes net now c id attrs = (.error (.error .noAttrName), c)) := by
  have hempty : (∃ a ∈ attrs, a.name = "") →
      upsertAttributes net now c id attrs = (.error (.error .noAttrName), c) :=
    fun h => upsertAttributes_of_error (makeAttrUpsertFrom_error.mpr ⟨rfl, h⟩)
  refine ⟨⟨fun ⟨e, he, hcause⟩ => ?_, fun h => ⟨.noAttrName, by rw [hempty h], rfl⟩⟩, hempty⟩
  by_contra hnone
  push_neg at hnone
  exact upsertAttributes_cause_of_named hnone he hcause

end NoAttrName

/-- The group attribute `AddDevice` appends has a name. -/
theorem addDevice_attrs_empty_name (dev : Device) :
    (∃ a ∈ (if dev.group ≠ "" then dev.attributes ++ [groupAttribute dev.group] else dev.attributes),
      a.name = "") ↔ ∃ a ∈ dev.attributes, a.name = "" := by
  split_ifs
  · simp only [List.mem_append, List.mem_singleton]
    constructor
    · rintro ⟨a, ha | rfl, hn⟩
      · exact ⟨a, ha, hn⟩
      · simp [groupAttribute, attrNameGroup] at hn
    · rintro ⟨a, ha, hn⟩
      exact ⟨a, .inl ha, hn⟩
  · rfl

/-- **Every store, collection, device id, attribute batch and device: `UpsertAttributes`
returns `ErrNoAttrName`, and `AddDevice` an error wrapping it, exactly when a
submitted attribute has an empty name**; in that case neither issues a command and
the collection is exactly as it was. -/
theorem empty_name_refused (net : Backend) (now : Int) (c : Collection) (id : DeviceID)
    (attrs : List DeviceAttribute) (dev : Device) :
    ((∃ e, (upsertAttributes net now c id attrs).1 = .error (.error e) ∧ e.cause = .noAttrName) ↔
      ∃ a ∈ attrs, a.name = "") ∧
    ((∃ a ∈ attrs, a.name = "") →
      upsertAttributes net now c id attrs = (.error (.error .noAttrName), c)) ∧
    ((∃ e, (addDevice net now c dev).1 = .error (.error e) ∧ e.cause = .noAttrName) ↔
      ∃ a ∈ dev.attributes, a.name = "") ∧
    ((∃ a ∈ dev.attributes, a.name = "") →
      addDevice net now c dev = (.error (.error (.wrap "failed to store device" .noAttrName)), c)) := by
  have hdev := @upsertAttributes_noAttrName net now c dev.id
    (if dev.group ≠ "" then dev.attributes ++ [groupAttribute dev.group] else dev.attributes)
  rw [addDevice_attrs_empty_name] at hdev
  have hadd : (∃ a ∈ dev.attributes, a.name = "") →
      addDevice net now c dev = (.error (.error (.wrap "failed to store device" .noAttrName)), c) :=
    fun h => by simp only [addDevice, hdev.2 h]
  refine ⟨upsertAttributes_noAttrName.1, upsertAttributes_noAttrName.2,
    ⟨fun ⟨e, he, hcause⟩ => hdev.1.mp ?_,
      fun h => ⟨.wrap "failed to store device" .noAttrName, by rw [hadd h], rfl⟩⟩, hadd⟩
  -- the error of `AddDevice` wraps the upsert's, with the same cause
  simp only [addDevice] at he
  split at he
  · rename_i e' _ heq
    cases he
    exact ⟨e', by rw [heq], hcause⟩
  · exact ⟨e, he, hcause⟩

end DeviceInventory
