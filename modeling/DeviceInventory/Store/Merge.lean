import DeviceInventory.Store.Attributes

/-!
# What the merge does to a device's attribute map

The spec's account of `UpsertAttributes`, and the proof that the store meets it
when the submitted attributes follow the key convention and leave the two
timestamps to the store.

## Main definitions

* `Entry`, `Doc.attrMap` — the attribute map of a document, by (scope, name)
  pair: the four fields of the record the store reads back from
  `attributes.<scope>-<name>`.
* `Entry.merge`, `mergeAttrs`, `expectedMap` — the spec's merge, in its words:
  each submitted attribute rewrites the scope and name of its pair's record and
  replaces the value and the description only when it carries them; `updated`
  is stamped on every call, `created` only on insert.

## Main statements

* `makeAttrUpsert_tracks` — the `$set` map of `makeAttrUpsert`, laid over the
  prior map, is the spec's merge.
* `upsertUpdate_check` — the server accepts the update document the store sends.
* `upsertAttributes_merges` — the merge as the store performs it.

## Design notes

The proof goes through the storage key, one pair at a time: under the key
convention `makeAttrField` is injective (`makeAttrField_inj`), so the map's entry
for a pair's field is the last assignment to it, and the server writes each
map entry to its own three-segment path and nothing else.  The two stamps are
written whole at the two-segment paths `attributes.system-updated` and
`attributes.system-created`, which is why a submitted attribute of either pair
makes the server refuse the whole update.
-/

namespace DeviceInventory

/-! ### The `bson.M` map -/

@[simp] theorem mapGet_mapInsert_self (m : List (String × Subtree)) (k : String) (v : Subtree) :
    mapGet (mapInsert m k v) k = some v := by
  simp [mapGet, mapInsert, List.find?_filter]

theorem mapGet_mapInsert_of_ne (m : List (String × Subtree)) {k k' : String} (v : Subtree)
    (h : k' ≠ k) : mapGet (mapInsert m k v) k' = mapGet m k' := by
  have hf : (m.filter fun kv => decide (kv.1 ≠ k)).find? (fun kv => decide (kv.1 = k')) =
      m.find? fun kv => decide (kv.1 = k') := by
    rw [List.find?_filter]
    congr 1
    funext kv
    by_cases hk : kv.1 = k' <;> simp [hk, h]
  unfold mapGet mapInsert
  rw [List.find?_append, hf]
  simp [Ne.symm h]

theorem mem_of_mapGet {m : List (String × Subtree)} {k : String} {v : Subtree}
    (h : mapGet m k = some v) : (k, v) ∈ m := by
  obtain ⟨kv, hkv, rfl⟩ := Option.map_eq_some'.mp h
  have hk : kv.1 = k := by simpa using List.find?_some hkv
  rw [← hk]
  exact List.mem_of_find?_eq_some hkv

theorem mapGet_eq_none {m : List (String × Subtree)} {k : String} (h : mapGet m k = none) :
    ∀ kv ∈ m, kv.1 ≠ k := by
  simpa [mapGet] using h

/-! ### The fields of a record -/

theorem makeAttrField_inj {s₁ n₁ s₂ n₂ sub₁ sub₂ : String} (h₁ : KeyConvention s₁ n₁)
    (h₂ : KeyConvention s₂ n₂) (hsub₁ : sub₁ ∈ attrSubFields) (hsub₂ : sub₂ ∈ attrSubFields)
    (h : makeAttrField n₁ s₁ [sub₁] = makeAttrField n₂ s₂ [sub₂]) :
    s₁ = s₂ ∧ n₁ = n₂ ∧ sub₁ = sub₂ :=
  makeAttrField_conflicting h₁ h₂ (dotFree_of_mem_attrSubFields hsub₁)
    (dotFree_of_mem_attrSubFields hsub₂) (by rw [h]; exact Or.inl (List.prefix_refl _))

/-- The fields of one record are told apart by their last segment, for any pair. -/
theorem makeAttrField_sub_inj (n s : String) {sub₁ sub₂ : String} :
    makeAttrField n s [sub₁] = makeAttrField n s [sub₂] ↔ sub₁ = sub₂ := by
  rw [makeAttrField_single, makeAttrField_single]
  exact ⟨fun h => String.ext (by simpa using congrArg String.data h), fun h => h ▸ rfl⟩

/-- The value a `$set` map assigns to the field `sub` of the pair's record. -/
def assigned (m : List (String × Subtree)) (s n sub : String) : Option Leaf :=
  (mapGet m (makeAttrField n s [sub])).bind (leafAt · [])

theorem assigned_mapInsert (m : List (String × Subtree)) (k : String) (v : Subtree)
    (s n sub : String) : assigned (mapInsert m k v) s n sub =
      if makeAttrField n s [sub] = k then leafAt v [] else assigned m s n sub := by
  unfold assigned
  split_ifs with h
  · rw [h, mapGet_mapInsert_self]; rfl
  · rw [mapGet_mapInsert_of_ne _ _ h]

/-! ### The attribute map -/

/-- **A record of the attribute map**: the four fields the store keeps for a
(scope, name) pair, each a value or missing. -/
structure Entry where
  scope : Option Leaf
  name : Option Leaf
  value : Option Leaf
  description : Option Leaf
deriving DecidableEq, Repr

/-- The record of a pair no attribute was written for. -/
def Entry.empty : Entry := ⟨none, none, none, none⟩

/-- The record a document holds under `attributes.<key>`. -/
def Doc.entry (d : Doc) (key : String) : Entry :=
  ⟨d.get [dbDevAttributes, key, dbDevAttributesScope], d.get [dbDevAttributes, key, dbDevAttributesName],
    d.get [dbDevAttributes, key, dbDevAttributesValue], d.get [dbDevAttributes, key, dbDevAttributesDesc]⟩

/-- An attribute map: a record for every (scope, name) pair. -/
abbrev AttrMap := String × String → Entry

/-- **The attribute map of a document**: the record of the pair `(s, n)` is the one
stored under the key `<s>-<n>`. -/
def Doc.attrMap (d : Doc) : AttrMap := fun p => d.entry (p.1 ++ "-" ++ p.2)

/-- **The spec's merge of one attribute into its pair's record**: scope and name are
rewritten, value and description replaced only when the attribute carries them. -/
def Entry.merge (e : Entry) (a : DeviceAttribute) : Entry where
  scope := some (.scalar (.str a.effScope))
  name := some (.scalar (.str a.name))
  value := a.value.or e.value
  description := (a.description.map fun s => .scalar (.str s)).or e.description

/-- The spec's merge of a batch, attribute after attribute in list order; the record
of every other pair is left as it is. -/
def mergeAttrs (m : AttrMap) : List DeviceAttribute → AttrMap
  | [] => m
  | a :: rest =>
    mergeAttrs (Function.update m (a.effScope, a.name) ((m (a.effScope, a.name)).merge a)) rest

/-- The pairs whose records the store stamps itself. -/
def stampPairs : List (String × String) :=
  [(attrScopeSystem, attrNameUpdated), (attrScopeSystem, attrNameCreated)]

/-- **The attribute map the spec promises after `UpsertAttributes`**: the prior map
(empty for an absent device) with the batch merged in, `system`/`updated` stamped
with the clock reading, and `system`/`created` stamped too when the device was
absent. -/
def expectedMap (prior : Option Doc) (attrs : List DeviceAttribute) (now : Int) : AttrMap :=
  let merged := Function.update (mergeAttrs ((prior.map Doc.attrMap).getD fun _ => .empty) attrs)
    (attrScopeSystem, attrNameUpdated) (Entry.empty.merge (stamp attrNameUpdated now))
  if prior.isNone then
    Function.update merged (attrScopeSystem, attrNameCreated)
      (Entry.empty.merge (stamp attrNameCreated now))
  else merged

/-! ### The `$set` map against the spec's merge -/

/-- A record with the assignments of a `$set` map to the pair's fields laid over it. -/
def overlay (m : List (String × Subtree)) (s n : String) (e : Entry) : Entry :=
  ⟨(assigned m s n dbDevAttributesScope).or e.scope, (assigned m s n dbDevAttributesName).or e.name,
    (assigned m s n dbDevAttributesValue).or e.value,
    (assigned m s n dbDevAttributesDesc).or e.description⟩

@[simp] theorem overlay_nil (s n : String) (e : Entry) : overlay [] s n e = e := rfl

/-- **One attribute's assignments, laid over a record, are the spec's merge** for its
own pair, and change nothing for any other pair. -/
theorem overlay_upsertAttr {m : List (String × Subtree)} {a : DeviceAttribute} {s n : String}
    (ha : KeyConvention a.effScope a.name) (h : KeyConvention s n) (e : Entry) :
    overlay (upsertAttr m a) s n e =
      if (s, n) = (a.effScope, a.name) then (overlay m s n e).merge a else overlay m s n e := by
  split_ifs with hp
  · obtain ⟨rfl, rfl⟩ := Prod.mk.inj hp
    simp only [overlay, Entry.merge, upsertAttr]
    cases a.value <;> cases a.description <;>
      simp [assigned_mapInsert, makeAttrField_sub_inj, dbDevAttributesScope, dbDevAttributesName,
        dbDevAttributesValue, dbDevAttributesDesc, single]
  · have key : ∀ sub ∈ attrSubFields, ∀ sub' ∈ attrSubFields,
        makeAttrField n s [sub] ≠ makeAttrField a.name a.effScope [sub'] :=
      fun sub hsub sub' hsub' heq => hp <| by
        obtain ⟨rfl, rfl, -⟩ := makeAttrField_inj h ha hsub hsub' heq
        rfl
    simp only [overlay, upsertAttr]
    cases a.value <;> cases a.description <;> simp [assigned_mapInsert, key, attrSubFields]

theorem makeAttrUpsertFrom_tracks : ∀ {m₀ m : List (String × Subtree)}
    {attrs : List DeviceAttribute} {A P : AttrMap}, makeAttrUpsertFrom m₀ attrs = .ok m →
    (∀ a ∈ attrs, KeyConvention a.effScope a.name) →
    (∀ s n, KeyConvention s n → A (s, n) = overlay m₀ s n (P (s, n))) →
    ∀ s n, KeyConvention s n → mergeAttrs A attrs (s, n) = overlay m s n (P (s, n))
  | _, _, [], _, _, h, _, hA => by cases h; exact hA
  | m₀, m, a :: rest, A, P, h, hc, hA => by
      simp only [makeAttrUpsertFrom] at h
      simp only [mergeAttrs]
      split at h
      · cases h
      · have ha := hc a (List.mem_cons_self a rest)
        refine makeAttrUpsertFrom_tracks h (fun b hb => hc b (List.mem_cons_of_mem a hb))
          fun s n hsn => ?_
        rw [overlay_upsertAttr ha hsn, ← hA s n hsn]
        split_ifs with hp
        · rw [hp, Function.update_same]
        · exact Function.update_noteq hp _ _

/-- **The `$set` map of `makeAttrUpsert`, laid over any attribute map, is the spec's
merge of the batch into it.** -/
theorem makeAttrUpsert_tracks {attrs : List DeviceAttribute} {m : List (String × Subtree)}
    (h : makeAttrUpsert attrs = .ok m) (hc : ∀ a ∈ attrs, KeyConvention a.effScope a.name)
    (P : AttrMap) {s n : String} (hsn : KeyConvention s n) :
    mergeAttrs P attrs (s, n) = overlay m s n (P (s, n)) :=
  makeAttrUpsertFrom_tracks h hc (fun _ _ _ => rfl) s n hsn

/-! ### The stamps -/

/-- The field a stamp attribute is written to: `attributes.system-<name>`. -/
theorem fieldPath_stampField {name : String} (h : DotFree name) :
    fieldPath (dbDevAttributes ++ "." ++ attrScopeSystem ++ "-" ++ name) =
      [dbDevAttributes, attrScopeSystem ++ "-" ++ name] := by
  rw [system_field, fieldPath_attributes,
    fieldPath_of_dotFree (dotFree_attrKey ⟨by decide, by decide, h⟩)]

theorem fieldPath_updatedField :
    fieldPath updatedField = [dbDevAttributes, attrScopeSystem ++ "-" ++ attrNameUpdated] :=
  fieldPath_stampField (by decide)

theorem fieldPath_createdField :
    fieldPath createdField = [dbDevAttributes, attrScopeSystem ++ "-" ++ attrNameCreated] :=
  fieldPath_stampField (by decide)

/-- Under the convention, a stamp's field lies above the record of a pair only when
the pair is the stamp's. -/
theorem pair_eq_of_stamp_above {s n sub name : String} (h : KeyConvention s n)
    (hpre : [dbDevAttributes, attrScopeSystem ++ "-" ++ name] <+:
      [dbDevAttributes, s ++ "-" ++ n, sub]) : (s, n) = (attrScopeSystem, name) := by
  simp only [List.cons_prefix_cons, true_and] at hpre
  obtain ⟨rfl, rfl⟩ := attrKey_inj h.1 (by decide) hpre.1.symm
  rfl

/-- Under the convention, the record of a pair other than a stamp's does not meet the
stamp's field. -/
theorem not_conflicting_stamp {s n sub name : String} (h : KeyConvention s n)
    (hne : (s, n) ≠ (attrScopeSystem, name)) :
    ¬ Conflicting [dbDevAttributes, s ++ "-" ++ n, sub] [dbDevAttributes, attrScopeSystem ++ "-" ++ name] :=
  fun hc => hc.elim (fun hpre => absurd hpre.length_le (by simp))
    fun hpre => hne (pair_eq_of_stamp_above h hpre)

/-! ### The update the store sends -/

section Upsert

variable {attrs : List DeviceAttribute} {m : List (String × Subtree)}

/-- Every assignment of the map of `makeAttrUpsert` is a single value for a field of
a submitted attribute's record, three segments deep. -/
theorem makeAttrUpsert_key (hm : makeAttrUpsert attrs = .ok m)
    (hconv : ∀ a ∈ attrs, KeyConvention a.effScope a.name) {kv : String × Subtree} (hkv : kv ∈ m) :
    ∃ b ∈ attrs, ∃ sub ∈ attrSubFields, ∃ x, kv = (makeAttrField b.name b.effScope [sub], single x) ∧
      fieldPath kv.1 = [dbDevAttributes, b.effScope ++ "-" ++ b.name, sub] := by
  obtain ⟨b, hb, sub, hsub, x, rfl⟩ :=
    (makeAttrUpsertFrom_assignment hm kv hkv).resolve_left (List.not_mem_nil _)
  exact ⟨b, hb, sub, hsub, x, rfl,
    fieldPath_makeAttrField_of_convention (hconv b hb) (dotFree_of_mem_attrSubFields hsub)⟩

theorem attrKey_ne_empty (s n : String) : s ++ "-" ++ n ≠ "" := fun h => by
  have := congrArg String.length h
  simp only [String.length_append, show "-".length = 1 from rfl, show "".length = 0 from rfl] at this
  omega

theorem empty_not_mem_attrSubFields : "" ∉ attrSubFields := by decide

/-- **No two keys of the map of `makeAttrUpsert` conflict**, under the key
convention. -/
theorem makeAttrUpsert_pairwise (hm : makeAttrUpsert attrs = .ok m)
    (hconv : ∀ a ∈ attrs, KeyConvention a.effScope a.name) :
    (m.map (·.1)).Pairwise fun k k' => ¬ Conflicting (fieldPath k) (fieldPath k') := by
  refine (makeAttrUpsertFrom_nodup (m := []) List.nodup_nil hm).pairwise_of_forall_ne ?_
  simp only [List.mem_map]
  rintro _ ⟨kv, hkv, rfl⟩ _ ⟨kv', hkv', rfl⟩ hne hc
  obtain ⟨b, hb, sub, hsub, x, rfl, -⟩ := makeAttrUpsert_key hm hconv hkv
  obtain ⟨b', hb', sub', hsub', x', rfl, -⟩ := makeAttrUpsert_key hm hconv hkv'
  obtain ⟨hs, hn, rfl⟩ := makeAttrField_conflicting (hconv b hb) (hconv b' hb')
    (dotFree_of_mem_attrSubFields hsub) (dotFree_of_mem_attrSubFields hsub') hc
  exact hne (by simp only [hs, hn])

/-- No key of the map of `makeAttrUpsert` meets the field of a stamp the batch does
not name. -/
theorem makeAttrUpsert_not_conflicting_stamp (hm : makeAttrUpsert attrs = .ok m)
    (hconv : ∀ a ∈ attrs, KeyConvention a.effScope a.name) {name : String}
    (hstamp : ∀ a ∈ attrs, (a.effScope, a.name) ≠ (attrScopeSystem, name))
    {kv : String × Subtree} (hkv : kv ∈ m) :
    ¬ Conflicting (fieldPath kv.1) [dbDevAttributes, attrScopeSystem ++ "-" ++ name] := by
  obtain ⟨b, hb, _, -, _, -, hp⟩ := makeAttrUpsert_key hm hconv hkv
  rw [hp]
  exact not_conflicting_stamp (hconv b hb) (hstamp b hb)

/-- **The server accepts the update `UpsertAttributes` sends**, when the batch
follows the key convention and leaves both stamps alone: no name has an empty
segment, and no two names conflict. -/
theorem upsertUpdate_check (hm : makeAttrUpsert attrs = .ok m)
    (hconv : ∀ a ∈ attrs, KeyConvention a.effScope a.name)
    (hstamp : ∀ a ∈ attrs, (a.effScope, a.name) ∉ stampPairs) (now : Int) :
    (upsertUpdate m now).check = .ok () := by
  have hstamp' : ∀ name ∈ [attrNameUpdated, attrNameCreated], ∀ b ∈ attrs,
      (b.effScope, b.name) ≠ (attrScopeSystem, name) := fun name hname b hb heq =>
    hstamp b hb (by simp only [stampPairs, heq]; simpa using hname)
  refine Update.check_eq_ok.mpr ⟨fun k hk => ?_, ?_⟩
  · simp only [Update.fields, upsertUpdate, mapInsert, List.map_append, List.mem_append,
      List.mem_map, List.mem_filter, List.map_cons, List.map_nil, List.mem_singleton,
      List.not_mem_nil, or_false] at hk
    rcases hk with (⟨kv, ⟨hkv, -⟩, rfl⟩ | rfl) | rfl
    · obtain ⟨b, -, sub, hsub, x, -, hp⟩ := makeAttrUpsert_key hm hconv hkv
      rw [hp]
      simp only [List.mem_cons, List.not_mem_nil, or_false, not_or]
      exact ⟨by decide, (attrKey_ne_empty _ _).symm, fun h => empty_not_mem_attrSubFields (h ▸ hsub)⟩
    · rw [fieldPath_updatedField]; decide
    · rw [fieldPath_createdField]; decide
  · simp only [Update.fields, upsertUpdate, mapInsert, List.map_append, List.map_cons,
      List.map_nil, List.append_nil, List.pairwise_append, List.pairwise_singleton,
      List.mem_singleton, List.mem_append, forall_eq, fieldPath_updatedField, fieldPath_createdField]
    have hfil := (List.filter_sublist (p := fun kv => decide (kv.1 ≠ updatedField)) m).map (·.1)
    refine ⟨⟨(makeAttrUpsert_pairwise hm hconv).sublist hfil, trivial, fun k hk => ?_⟩, trivial,
      fun k hk => ?_⟩
    · obtain ⟨kv, hkv, rfl⟩ := List.mem_map.mp (hfil.subset hk)
      exact makeAttrUpsert_not_conflicting_stamp hm hconv (hstamp' _ (List.mem_cons_self _ _)) hkv
    · rcases hk with hk | rfl
      · obtain ⟨kv, hkv, rfl⟩ := List.mem_map.mp (hfil.subset hk)
        exact makeAttrUpsert_not_conflicting_stamp hm hconv (hstamp' _ (by simp)) hkv
      · rw [fieldPath_updatedField]; decide

/-- Every path the update sets is at most three segments deep. -/
theorem upsertUpdate_lengths (hm : makeAttrUpsert attrs = .ok m)
    (hconv : ∀ a ∈ attrs, KeyConvention a.effScope a.name) (now : Int) :
    ∀ kv ∈ (upsertUpdate m now).set ++ (upsertUpdate m now).setOnInsert,
      (fieldPath kv.1).length ≤ 3 := by
  intro kv hkv
  simp only [upsertUpdate, mapInsert, List.mem_append, List.mem_filter, List.mem_singleton] at hkv
  rcases hkv with (⟨hkv, -⟩ | rfl) | rfl
  · obtain ⟨b, -, sub, -, x, -, hp⟩ := makeAttrUpsert_key hm hconv hkv
    simp [hp]
  · rw [fieldPath_updatedField]; decide
  · rw [fieldPath_createdField]; decide

/-! ### The records after the upsert -/

variable {now : Int} {insert : Bool} {d d' : Doc}

/-- **After the upsert, `system`/`updated` holds the stamp of the call.** -/
theorem upsertUpdate_entry_updated (h : (upsertUpdate m now).apply insert d = .ok d') :
    d'.entry (attrScopeSystem ++ "-" ++ attrNameUpdated) =
      Entry.empty.merge (stamp attrNameUpdated now) := by
  have hmem : (updatedField, (stamp attrNameUpdated now).encode) ∈ (upsertUpdate m now).set :=
    List.mem_append_right _ (List.mem_singleton_self _)
  have hr := fun sub => Update.apply_get_of_set h hmem [sub]
  simp only [fieldPath_updatedField, List.cons_append, List.nil_append] at hr
  simp only [Doc.entry, hr]
  rfl

/-- **After an upsert that inserts, `system`/`created` holds the stamp of the call.** -/
theorem upsertUpdate_entry_created (h : (upsertUpdate m now).apply true d = .ok d') :
    d'.entry (attrScopeSystem ++ "-" ++ attrNameCreated) =
      Entry.empty.merge (stamp attrNameCreated now) := by
  have hr := fun sub => Update.apply_get_of_setOnInsert h (List.mem_singleton_self _) [sub]
  simp only [fieldPath_createdField, List.cons_append, List.nil_append] at hr
  simp only [Doc.entry, hr]
  rfl

/-- **Each field of the record of a pair the store does not stamp**, after the
upsert: the value the `$set` map assigns it, or else the one before. -/
theorem upsertUpdate_get_field (hm : makeAttrUpsert attrs = .ok m)
    (hconv : ∀ a ∈ attrs, KeyConvention a.effScope a.name)
    (h : (upsertUpdate m now).apply insert d = .ok d') {s n : String} (hsn : KeyConvention s n)
    (hupd : (s, n) ≠ (attrScopeSystem, attrNameUpdated))
    (hcre : insert → (s, n) ≠ (attrScopeSystem, attrNameCreated)) {sub : String}
    (hsub : sub ∈ attrSubFields) :
    d'.get [dbDevAttributes, s ++ "-" ++ n, sub] =
      (assigned m s n sub).or (d.get [dbDevAttributes, s ++ "-" ++ n, sub]) := by
  have hq := fieldPath_makeAttrField_of_convention hsn (dotFree_of_mem_attrSubFields hsub)
  unfold assigned
  cases hk : mapGet m (makeAttrField n s [sub]) with
  | some v =>
      obtain ⟨b, -, sub', -, x, hkv, -⟩ := makeAttrUpsert_key hm hconv (mem_of_mapGet hk)
      obtain ⟨-, rfl⟩ := Prod.mk.inj hkv
      have hne : makeAttrField n s [sub] ≠ updatedField := fun heq => by
        have := congrArg fieldPath heq
        rw [hq, fieldPath_updatedField] at this
        simp at this
      have hset : (makeAttrField n s [sub], single x) ∈ (upsertUpdate m now).set :=
        List.mem_append_left _ (List.mem_filter.mpr ⟨mem_of_mapGet hk, decide_eq_true hne⟩)
      have := Update.apply_get_of_set h hset []
      rw [List.append_nil, hq] at this
      rw [this]
      rfl
  | none =>
      rw [Option.none_bind, Option.none_or, ← hq]
      refine Update.apply_get_of_outside h (fun kv hkv hpre => ?_) (fun hins kv hkv hpre => ?_)
        fun _ h => absurd h (List.not_mem_nil _)
      · rcases mem_mapInsert hkv with hkv | rfl
        · obtain ⟨b, hb, sub', hsub', x, rfl, -⟩ := makeAttrUpsert_key hm hconv hkv
          obtain ⟨rfl, rfl, rfl⟩ := makeAttrField_conflicting (hconv b hb) hsn
            (dotFree_of_mem_attrSubFields hsub') (dotFree_of_mem_attrSubFields hsub) (Or.inl hpre)
          exact mapGet_eq_none hk _ hkv rfl
        · rw [fieldPath_updatedField, hq] at hpre
          exact hupd (pair_eq_of_stamp_above hsn hpre)
      · rw [List.mem_singleton.mp hkv, fieldPath_createdField, hq] at hpre
        exact hcre hins (pair_eq_of_stamp_above hsn hpre)

/-- **After the upsert, the record of every pair the store does not stamp is the
`$set` map laid over the record before.** -/
theorem upsertUpdate_entry (hm : makeAttrUpsert attrs = .ok m)
    (hconv : ∀ a ∈ attrs, KeyConvention a.effScope a.name)
    (h : (upsertUpdate m now).apply insert d = .ok d') {s n : String} (hsn : KeyConvention s n)
    (hupd : (s, n) ≠ (attrScopeSystem, attrNameUpdated))
    (hcre : insert → (s, n) ≠ (attrScopeSystem, attrNameCreated)) :
    d'.entry (s ++ "-" ++ n) = overlay m s n (d.entry (s ++ "-" ++ n)) := by
  have key := fun sub (hsub : sub ∈ attrSubFields) =>
    upsertUpdate_get_field hm hconv h hsn hupd hcre hsub
  simp only [Doc.entry, overlay]
  rw [key _ (by simp [attrSubFields]), key dbDevAttributesName (by simp [attrSubFields]),
    key dbDevAttributesValue (by simp [attrSubFields]), key dbDevAttributesDesc (by simp [attrSubFields])]

end Upsert

/-! ### The merge -/

/-- `UpsertAttributes` once its map is built: the upsert, with a driver error
returned as it is. -/
theorem upsertAttributes_of_ok {net : Backend} {now : Int} {c : Collection} {id : DeviceID}
    {attrs : List DeviceAttribute} {m : List (String × Subtree)} (hm : makeAttrUpsert attrs = .ok m)
    {r : UpdateResult}
    (hr : (upsertOne net c id (upsertUpdate m now) (upsertUpdate_shaped hm now)).1 = .ok r) :
    upsertAttributes net now c id attrs =
      (.ok (), (upsertOne net c id (upsertUpdate m now) (upsertUpdate_shaped hm now)).2) := by
  unfold upsertAttributes
  split
  · rename_i e he; rw [hm] at he; cases he
  · rename_i m' hm'
    obtain rfl : m' = m := Except.ok.inj (hm'.symm.trans hm)
    split
    · rename_i e c' heq; rw [heq] at hr; cases hr
    · rename_i c' heq; rw [heq]

/-- The spec's map, pair by pair. -/
theorem expectedMap_eq (prior : Option Doc) (attrs : List DeviceAttribute) (now : Int)
    (p : String × String) : expectedMap prior attrs now p =
      if p = (attrScopeSystem, attrNameUpdated) then Entry.empty.merge (stamp attrNameUpdated now)
      else if prior.isNone ∧ p = (attrScopeSystem, attrNameCreated) then
        Entry.empty.merge (stamp attrNameCreated now)
      else mergeAttrs ((prior.map Doc.attrMap).getD fun _ => .empty) attrs p := by
  have hne : (attrScopeSystem, attrNameCreated) ≠ (attrScopeSystem, attrNameUpdated) := by decide
  unfold expectedMap
  cases prior <;> by_cases hu : p = (attrScopeSystem, attrNameUpdated) <;>
    by_cases hc : p = (attrScopeSystem, attrNameCreated) <;>
    simp_all [Function.update_apply]

/-- **`UpsertAttributes` merges as the spec says**, for a batch of named attributes
that follow the key convention and leave the two stamps to the store: the call
succeeds, no other device changes, and the device's attribute map is the prior
one (empty for an absent device) with the batch merged in list order, `updated`
stamped with the clock reading, and `created` stamped with it on insert and left
as it was otherwise. -/
theorem upsertAttributes_merges {c : Collection} {id : DeviceID} {attrs : List DeviceAttribute}
    {now : Int} (hname : ∀ a ∈ attrs, a.name ≠ "")
    (hconv : ∀ a ∈ attrs, KeyConvention a.effScope a.name)
    (hstamp : ∀ a ∈ attrs, (a.effScope, a.name) ∉ stampPairs) :
    (upsertAttributes .healthy now c id attrs).1 = .ok () ∧
      (∀ id', id' ≠ id → (upsertAttributes .healthy now c id attrs).2.find? id' = c.find? id') ∧
      ∃ d', (upsertAttributes .healthy now c id attrs).2.find? id = some d' ∧
        ∀ s n, KeyConvention s n → d'.attrMap (s, n) = expectedMap (c.find? id) attrs now (s, n) := by
  obtain ⟨m, hm⟩ := makeAttrUpsertFrom_ok (m := []) hname
  obtain ⟨d', hd'⟩ := Update.apply_ok_of_layout (c.find? id).isNone
    (upsertUpdate_check hm hconv hstamp now) (upsertUpdate_shaped hm now)
    (upsertUpdate_lengths hm hconv now) (c.layout_find?_getD id)
  obtain ⟨⟨r, hr⟩, hfind, hother⟩ :=
    upsertOne_of_apply (Backend.healthy_fails _) (upsertUpdate_shaped hm now) hd'
  rw [upsertAttributes_of_ok hm hr]
  refine ⟨rfl, hother, d', hfind, fun s n hsn => ?_⟩
  have hprior : (((c.find? id).map Doc.attrMap).getD fun _ => .empty) =
      ((c.find? id).getD ⟨id, []⟩).attrMap := by
    cases c.find? id <;> rfl
  rw [expectedMap_eq, hprior]
  split_ifs with hu hc
  · rw [hu]; exact upsertUpdate_entry_updated hd'
  · rw [hc.2]; rw [hc.1] at hd'; exact upsertUpdate_entry_created hd'
  · rw [makeAttrUpsert_tracks hm hconv _ hsn]
    exact upsertUpdate_entry hm hconv hd' hsn hu fun hins hcr => hc ⟨hins, hcr⟩

/-- The merge of a first `mac` attribute into an absent device. -/
theorem upsertAttributes_merges_mac :
    (∀ a ∈ [(⟨"mac", none, some (.scalar (.str "00:11")), ""⟩ : DeviceAttribute)], a.name ≠ "") ∧
    (∀ a ∈ [(⟨"mac", none, some (.scalar (.str "00:11")), ""⟩ : DeviceAttribute)],
      KeyConvention a.effScope a.name) ∧
    (∀ a ∈ [(⟨"mac", none, some (.scalar (.str "00:11")), ""⟩ : DeviceAttribute)],
      (a.effScope, a.name) ∉ stampPairs) ∧
    ((upsertAttributes .healthy 7 Collection.empty "dev"
        [⟨"mac", none, some (.scalar (.str "00:11")), ""⟩]).1 = .ok () ∧
      (∀ id', id' ≠ "dev" → (upsertAttributes .healthy 7 Collection.empty "dev"
        [⟨"mac", none, some (.scalar (.str "00:11")), ""⟩]).2.find? id' = Collection.empty.find? id') ∧
      ∃ d', (upsertAttributes .healthy 7 Collection.empty "dev"
          [⟨"mac", none, some (.scalar (.str "00:11")), ""⟩]).2.find? "dev" = some d' ∧
        ∀ s n, KeyConvention s n → d'.attrMap (s, n) = expectedMap (Collection.empty.find? "dev")
          [⟨"mac", none, some (.scalar (.str "00:11")), ""⟩] 7 (s, n)) :=
  ⟨by decide, by decide, by decide, upsertAttributes_merges (by decide) (by decide) (by decide)⟩

/-- **A submitted `system`/`updated` attribute makes the server refuse the upsert**:
its record's fields lie below `attributes.system-updated`, which the same `$set`
stamps, so the call fails although every name is set and no command fails. -/
theorem upsertAttributes_updated_refused :
    (∀ a ∈ [(⟨attrNameUpdated, none, some (.scalar (.str "x")), attrScopeSystem⟩ : DeviceAttribute)],
      a.name ≠ "") ∧
    (upsertAttributes .healthy 0 Collection.empty "dev"
        [⟨attrNameUpdated, none, some (.scalar (.str "x")), attrScopeSystem⟩]).1 =
      .error (.error (.mongo (.conflict "attributes.system-updated.scope"))) := by
  decide

end DeviceInventory
