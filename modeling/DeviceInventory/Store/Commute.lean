import DeviceInventory.Store.Inventory

/-!
# Concurrent writes to one device

Clients of the inventory write the same device without coordination: the server
applies each call atomically, in some order.  This module shows that the order is
invisible in the device's attribute map where it should be, so that no client's
write is lost to another's.

## Main statements

* `upsertAttributes_sequence` — two `UpsertAttributes` calls in a row leave the map
  the spec's merge of both batches leaves, with `updated` stamped by the later call.
* `upsertAttributes_batched` — two calls in a row and one call of the concatenated
  batch leave the same records, but for `updated`.
* `upserts_commute` — two calls whose batches name disjoint pairs, each with its
  own clock reading, commute: both orders leave every record but the stamps the
  same, each batch merged in, and `updated` holds the reading of the call applied
  last.
* `upsert_group_commute` — an upsert that does not name the group attribute and
  `UpdateDeviceGroup` on an existing device commute.

## Design notes

The work is done once, on attribute maps: the merge of a batch reads the prior map
only at the pair it computes (`mergeAttrs_congr`), leaves the pairs the batch does
not name alone (`mergeAttrs_of_not_mem`), and merges a concatenation as its parts
in turn (`mergeAttrs_append`); the spec's map of an upsert of ordinary attributes
then absorbs a later batch (`mergeAttrs_expectedMap`).  The calls are connected to
this level by the lemmas of `DeviceInventory.Store.Inventory`: the merge as the
store performs it (`upsertAttributes_ordinary`) and the write of the group record
(`Doc.Replaced.attrMap_eq`).  Every statement is about the records of conventional
pairs, which is what `Doc.attrMap` reads apart.
-/

namespace DeviceInventory

/-! ### The merge, on attribute maps -/

theorem mergeAttrs_append (M : AttrMap) (A B : List DeviceAttribute) :
    mergeAttrs M (A ++ B) = mergeAttrs (mergeAttrs M A) B := by
  induction A generalizing M with
  | nil => rfl
  | cons a A ih => exact ih _

/-- A record written at a pair the batch does not name survives the merge. -/
theorem mergeAttrs_update {q : String × String} {A : List DeviceAttribute}
    (hA : ∀ a ∈ A, (a.effScope, a.name) ≠ q) (M : AttrMap) (e : Entry) :
    mergeAttrs (Function.update M q e) A = Function.update (mergeAttrs M A) q e := by
  funext p
  by_cases hp : p = q
  · subst hp
    rw [Function.update_same, mergeAttrs_of_not_mem hA, Function.update_same]
  · rw [Function.update_noteq hp, mergeAttrs_congr A (Function.update_noteq hp e M)]

/-- **Batches that name disjoint pairs merge to the same map in either order.** -/
theorem mergeAttrs_append_comm {A B : List DeviceAttribute}
    (h : ∀ a ∈ A, ∀ b ∈ B, (a.effScope, a.name) ≠ (b.effScope, b.name)) (M : AttrMap) :
    mergeAttrs M (A ++ B) = mergeAttrs M (B ++ A) := by
  funext p
  rw [mergeAttrs_append, mergeAttrs_append]
  by_cases hA : ∀ a ∈ A, (a.effScope, a.name) ≠ p
  · rw [mergeAttrs_congr B (mergeAttrs_of_not_mem hA), mergeAttrs_of_not_mem hA]
  · push_neg at hA
    obtain ⟨a, ha, rfl⟩ := hA
    have hB : ∀ b ∈ B, (b.effScope, b.name) ≠ (a.effScope, a.name) := fun b hb =>
      (h a ha b hb).symm
    rw [mergeAttrs_of_not_mem hB, mergeAttrs_congr A (mergeAttrs_of_not_mem hB)]

/-- **The spec's map of an upsert absorbs a later batch of ordinary attributes**:
merging it in gives the map of one upsert of both batches. -/
theorem mergeAttrs_upsertSpec {B : List DeviceAttribute} (hB : ∀ b ∈ B, b.Ordinary)
    (prior : Option AttrMap) (A : List DeviceAttribute) (now : Int) :
    mergeAttrs (upsertSpec prior A now) B = upsertSpec prior (A ++ B) now := by
  have hupd := fun b hb => (hB b hb).ne_stamp updated_mem_stampPairs
  have hcre := fun b hb => (hB b hb).ne_stamp created_mem_stampPairs
  unfold upsertSpec
  split_ifs
  · rw [mergeAttrs_update hcre, mergeAttrs_update hupd, mergeAttrs_append]
  · rw [mergeAttrs_update hupd, mergeAttrs_append]

theorem mergeAttrs_expectedMap {B : List DeviceAttribute} (hB : ∀ b ∈ B, b.Ordinary)
    (prior : Option Doc) (A : List DeviceAttribute) (now : Int) :
    mergeAttrs (expectedMap prior A now) B = expectedMap prior (A ++ B) now := by
  rw [expectedMap_eq_upsertSpec, expectedMap_eq_upsertSpec, mergeAttrs_upsertSpec hB]

/-- **Two upserts at one clock reading are one upsert of both batches**, in the
spec's terms, when the later batch is ordinary. -/
theorem upsertSpec_twice {B : List DeviceAttribute} (hB : ∀ b ∈ B, b.Ordinary) (prior : Option AttrMap)
    (A : List DeviceAttribute) (now : Int) :
    upsertSpec (some (upsertSpec prior A now)) B now = upsertSpec prior (A ++ B) now := by
  have hcu : (attrScopeSystem, attrNameCreated) ≠ (attrScopeSystem, attrNameUpdated) := by decide
  -- the one upsert has stamped `updated` with the reading already
  have hupd : upsertSpec prior (A ++ B) now (attrScopeSystem, attrNameUpdated) =
      Entry.empty.merge (stamp attrNameUpdated now) := by
    unfold upsertSpec
    split_ifs <;> simp only [Function.update_noteq hcu.symm, Function.update_same]
  rw [upsertSpec, if_neg (by simp), Option.getD_some, mergeAttrs_upsertSpec hB]
  exact Function.update_eq_self_iff.mpr hupd.symm

/-- **The `created` record of the spec's upsert of ordinary attributes**: the call's
reading for a new device, the stored record otherwise. -/
theorem expectedMap_created {A : List DeviceAttribute} (hA : ∀ a ∈ A, a.Ordinary) (prior : Option Doc)
    (now : Int) : expectedMap prior A now (attrScopeSystem, attrNameCreated) =
      if prior.isNone then Entry.empty.merge (stamp attrNameCreated now)
      else ((prior.map Doc.attrMap).getD fun _ => .empty) (attrScopeSystem, attrNameCreated) := by
  rw [expectedMap_eq, if_neg (by decide),
    mergeAttrs_of_not_mem fun a ha => (hA a ha).ne_stamp created_mem_stampPairs]
  simp only [and_true]

/-! ### Two upserts -/

section TwoUpserts

variable {c : Collection} {id : DeviceID} {A B : List DeviceAttribute}

/-- **Two `UpsertAttributes` calls in a row**, of ordinary batches on a store that
does not fail: no other device changes, and the device's map is the spec's map of
one upsert of both batches at the first call's clock reading, with `updated`
stamped by the second. -/
theorem upsertAttributes_sequence (now₁ now₂ : Int) (hA : ∀ a ∈ A, a.Ordinary)
    (hB : ∀ b ∈ B, b.Ordinary) :
    (∀ id', id' ≠ id → (upsertAttributes .healthy now₂
        (upsertAttributes .healthy now₁ c id A).2 id B).2.find? id' = c.find? id') ∧
      ∃ d, (upsertAttributes .healthy now₂ (upsertAttributes .healthy now₁ c id A).2 id B).2.find? id =
          some d ∧
        ∀ s n, KeyConvention s n → d.attrMap (s, n) =
          Function.update (expectedMap (c.find? id) (A ++ B) now₁) (attrScopeSystem, attrNameUpdated)
            (Entry.empty.merge (stamp attrNameUpdated now₂)) (s, n) := by
  obtain ⟨-, hother₁, d₁, hfind₁, hmap₁⟩ := upsertAttributes_ordinary c id now₁ hA
  obtain ⟨-, hother₂, d₂, hfind₂, hmap₂⟩ :=
    upsertAttributes_ordinary (upsertAttributes .healthy now₁ c id A).2 id now₂ hB
  refine ⟨fun id' hne => (hother₂ id' hne).trans (hother₁ id' hne), d₂, hfind₂, fun s n hsn => ?_⟩
  rw [hmap₂ s n hsn, hfind₁, expectedMap_eq, ← mergeAttrs_expectedMap hB]
  split_ifs with hu hc
  · rw [hu, Function.update_same]
  · exact absurd hc.1 (by simp)
  · rw [Function.update_noteq hu]
    exact mergeAttrs_congr B (hmap₁ s n hsn)

/-- **Two calls in a row and one call of the concatenated batch leave the same
records**, but for `updated`, which the two calls stamp twice; no other device
changes either way. -/
theorem upsertAttributes_batched (now₁ now₂ : Int) (hA : ∀ a ∈ A, a.Ordinary)
    (hB : ∀ b ∈ B, b.Ordinary) :
    (∀ id', id' ≠ id → (upsertAttributes .healthy now₂
        (upsertAttributes .healthy now₁ c id A).2 id B).2.find? id' =
        (upsertAttributes .healthy now₁ c id (A ++ B)).2.find? id') ∧
      ∃ d₁ d₂, (upsertAttributes .healthy now₂
          (upsertAttributes .healthy now₁ c id A).2 id B).2.find? id = some d₁ ∧
        (upsertAttributes .healthy now₁ c id (A ++ B)).2.find? id = some d₂ ∧
        ∀ s n, KeyConvention s n → (s, n) ≠ (attrScopeSystem, attrNameUpdated) →
          d₁.attrMap (s, n) = d₂.attrMap (s, n) := by
  have hAB : ∀ a ∈ A ++ B, a.Ordinary := fun a ha => (List.mem_append.mp ha).elim (hA a) (hB a)
  obtain ⟨hother, d₁, hfind₁, hmap₁⟩ := @upsertAttributes_sequence c id A B now₁ now₂ hA hB
  obtain ⟨-, hother₂, d₂, hfind₂, hmap₂⟩ := upsertAttributes_ordinary c id now₁ hAB
  refine ⟨fun id' hne => (hother id' hne).trans (hother₂ id' hne).symm, d₁, d₂, hfind₁, hfind₂,
    fun s n hsn hu => ?_⟩
  rw [hmap₁ s n hsn, hmap₂ s n hsn, Function.update_noteq hu]

/-- A `mac` then an `ip` attribute, against both at once, on an empty store. -/
theorem upsertAttributes_batched_mac_ip :
    (∀ a ∈ [(⟨"mac", none, some (.scalar (.str "00:11")), ""⟩ : DeviceAttribute)], a.Ordinary) ∧
    (∀ b ∈ [(⟨"ip", none, some (.scalar (.str "10.0.0.1")), ""⟩ : DeviceAttribute)], b.Ordinary) ∧
    ((∀ id', id' ≠ "dev" → (upsertAttributes .healthy 2 (upsertAttributes .healthy 1 Collection.empty
        "dev" [⟨"mac", none, some (.scalar (.str "00:11")), ""⟩]).2 "dev"
          [⟨"ip", none, some (.scalar (.str "10.0.0.1")), ""⟩]).2.find? id' =
        (upsertAttributes .healthy 1 Collection.empty "dev" ([⟨"mac", none, some (.scalar (.str "00:11")), ""⟩] ++
          [⟨"ip", none, some (.scalar (.str "10.0.0.1")), ""⟩])).2.find? id') ∧
      ∃ d₁ d₂, (upsertAttributes .healthy 2 (upsertAttributes .healthy 1 Collection.empty
          "dev" [⟨"mac", none, some (.scalar (.str "00:11")), ""⟩]).2 "dev"
            [⟨"ip", none, some (.scalar (.str "10.0.0.1")), ""⟩]).2.find? "dev" = some d₁ ∧
        (upsertAttributes .healthy 1 Collection.empty "dev" ([⟨"mac", none, some (.scalar (.str "00:11")), ""⟩] ++
          [⟨"ip", none, some (.scalar (.str "10.0.0.1")), ""⟩])).2.find? "dev" = some d₂ ∧
        ∀ s n, KeyConvention s n → (s, n) ≠ (attrScopeSystem, attrNameUpdated) →
          d₁.attrMap (s, n) = d₂.attrMap (s, n)) :=
  ⟨by decide, by decide, upsertAttributes_batched 1 2 (by decide) (by decide)⟩

/-- **Two upserts of disjoint pairs commute, and neither is lost**: on a store that
does not fail, two calls each with its own clock reading, applied in either order,
leave the same documents for every other device, and at every conventional pair of
the device but the stamps the same record, the merge of both batches into the prior
map; `updated` holds the reading of the call applied last, and `created` that of
the call applied first when the device is new, the stored record otherwise. -/
theorem upserts_commute (tA tB : Int) (hA : ∀ a ∈ A, a.Ordinary) (hB : ∀ b ∈ B, b.Ordinary)
    (hdisj : ∀ a ∈ A, ∀ b ∈ B, (a.effScope, a.name) ≠ (b.effScope, b.name)) :
    (∀ id', id' ≠ id →
      (upsertAttributes .healthy tB (upsertAttributes .healthy tA c id A).2 id B).2.find? id' =
        (upsertAttributes .healthy tA (upsertAttributes .healthy tB c id B).2 id A).2.find? id') ∧
      ∃ d₁ d₂,
        (upsertAttributes .healthy tB (upsertAttributes .healthy tA c id A).2 id B).2.find? id = some d₁ ∧
        (upsertAttributes .healthy tA (upsertAttributes .healthy tB c id B).2 id A).2.find? id = some d₂ ∧
        (∀ s n, KeyConvention s n → (s, n) ∉ stampPairs → d₁.attrMap (s, n) = d₂.attrMap (s, n) ∧
          d₁.attrMap (s, n) = mergeAttrs (((c.find? id).map Doc.attrMap).getD fun _ => .empty) (A ++ B) (s, n)) ∧
        d₁.attrMap (attrScopeSystem, attrNameUpdated) = Entry.empty.merge (stamp attrNameUpdated tB) ∧
        d₂.attrMap (attrScopeSystem, attrNameUpdated) = Entry.empty.merge (stamp attrNameUpdated tA) ∧
        d₁.attrMap (attrScopeSystem, attrNameCreated) =
          (if (c.find? id).isNone then Entry.empty.merge (stamp attrNameCreated tA)
          else ((c.find? id).map Doc.attrMap).getD (fun _ => .empty) (attrScopeSystem, attrNameCreated)) ∧
        d₂.attrMap (attrScopeSystem, attrNameCreated) =
          (if (c.find? id).isNone then Entry.empty.merge (stamp attrNameCreated tB)
          else ((c.find? id).map Doc.attrMap).getD (fun _ => .empty) (attrScopeSystem, attrNameCreated)) := by
  obtain ⟨hother₁, d₁, hfind₁, hmap₁⟩ := @upsertAttributes_sequence c id A B tA tB hA hB
  obtain ⟨hother₂, d₂, hfind₂, hmap₂⟩ := @upsertAttributes_sequence c id B A tB tA hB hA
  have hAB : ∀ a ∈ A ++ B, a.Ordinary := fun a ha => (List.mem_append.mp ha).elim (hA a) (hB a)
  have hBA : ∀ a ∈ B ++ A, a.Ordinary := fun a ha => (List.mem_append.mp ha).elim (hB a) (hA a)
  have hcu : (attrScopeSystem, attrNameCreated) ≠ (attrScopeSystem, attrNameUpdated) := by decide
  have hsys : ∀ n, n = attrNameUpdated ∨ n = attrNameCreated → KeyConvention attrScopeSystem n := by
    rintro _ (rfl | rfl) <;> decide
  refine ⟨fun id' hne => (hother₁ id' hne).trans (hother₂ id' hne).symm, d₁, d₂, hfind₁, hfind₂,
    fun s n hsn hns => ?_, ?_, ?_, ?_, ?_⟩
  · -- off the stamps neither reading shows
    have hu : (s, n) ≠ (attrScopeSystem, attrNameUpdated) := fun h => hns (h ▸ updated_mem_stampPairs)
    have hc : (s, n) ≠ (attrScopeSystem, attrNameCreated) := fun h => hns (h ▸ created_mem_stampPairs)
    rw [hmap₁ s n hsn, hmap₂ s n hsn, Function.update_noteq hu, Function.update_noteq hu, expectedMap_eq,
      expectedMap_eq, if_neg hu, if_neg hu, if_neg fun h => hc h.2, if_neg fun h => hc h.2,
      mergeAttrs_append_comm hdisj]
    exact ⟨rfl, rfl⟩
  · rw [hmap₁ _ _ (hsys _ (.inl rfl)), Function.update_same]
  · rw [hmap₂ _ _ (hsys _ (.inl rfl)), Function.update_same]
  · rw [hmap₁ _ _ (hsys _ (.inr rfl)), Function.update_noteq hcu, expectedMap_created hAB]
  · rw [hmap₂ _ _ (hsys _ (.inr rfl)), Function.update_noteq hcu, expectedMap_created hBA]

/-- Two clients upserting a `mac` attribute at reading `1` and an `ip` attribute at
`2` to a new device, in either order. -/
theorem upserts_commute_mac_ip :
    (∀ a ∈ [(⟨"mac", none, some (.scalar (.str "00:11")), ""⟩ : DeviceAttribute)], a.Ordinary) ∧
    (∀ b ∈ [(⟨"ip", none, some (.scalar (.str "10.0.0.1")), ""⟩ : DeviceAttribute)], b.Ordinary) ∧
    (∀ a ∈ [(⟨"mac", none, some (.scalar (.str "00:11")), ""⟩ : DeviceAttribute)],
      ∀ b ∈ [(⟨"ip", none, some (.scalar (.str "10.0.0.1")), ""⟩ : DeviceAttribute)],
        (a.effScope, a.name) ≠ (b.effScope, b.name)) ∧
    ((∀ id', id' ≠ "dev" →
      (upsertAttributes .healthy 2 (upsertAttributes .healthy 1 Collection.empty "dev"
        [⟨"mac", none, some (.scalar (.str "00:11")), ""⟩]).2 "dev"
          [⟨"ip", none, some (.scalar (.str "10.0.0.1")), ""⟩]).2.find? id' =
      (upsertAttributes .healthy 1 (upsertAttributes .healthy 2 Collection.empty "dev"
        [⟨"ip", none, some (.scalar (.str "10.0.0.1")), ""⟩]).2 "dev"
          [⟨"mac", none, some (.scalar (.str "00:11")), ""⟩]).2.find? id') ∧
      ∃ d₁ d₂,
        (upsertAttributes .healthy 2 (upsertAttributes .healthy 1 Collection.empty "dev"
          [⟨"mac", none, some (.scalar (.str "00:11")), ""⟩]).2 "dev"
            [⟨"ip", none, some (.scalar (.str "10.0.0.1")), ""⟩]).2.find? "dev" = some d₁ ∧
        (upsertAttributes .healthy 1 (upsertAttributes .healthy 2 Collection.empty "dev"
          [⟨"ip", none, some (.scalar (.str "10.0.0.1")), ""⟩]).2 "dev"
            [⟨"mac", none, some (.scalar (.str "00:11")), ""⟩]).2.find? "dev" = some d₂ ∧
        (∀ s n, KeyConvention s n → (s, n) ∉ stampPairs → d₁.attrMap (s, n) = d₂.attrMap (s, n) ∧
          d₁.attrMap (s, n) = mergeAttrs (((Collection.empty.find? "dev").map Doc.attrMap).getD fun _ => .empty)
            ([⟨"mac", none, some (.scalar (.str "00:11")), ""⟩] ++
              [⟨"ip", none, some (.scalar (.str "10.0.0.1")), ""⟩]) (s, n)) ∧
        d₁.attrMap (attrScopeSystem, attrNameUpdated) = Entry.empty.merge (stamp attrNameUpdated 2) ∧
        d₂.attrMap (attrScopeSystem, attrNameUpdated) = Entry.empty.merge (stamp attrNameUpdated 1) ∧
        d₁.attrMap (attrScopeSystem, attrNameCreated) =
          (if (Collection.empty.find? "dev").isNone then Entry.empty.merge (stamp attrNameCreated 1)
          else ((Collection.empty.find? "dev").map Doc.attrMap).getD (fun _ => .empty)
            (attrScopeSystem, attrNameCreated)) ∧
        d₂.attrMap (attrScopeSystem, attrNameCreated) =
          (if (Collection.empty.find? "dev").isNone then Entry.empty.merge (stamp attrNameCreated 2)
          else ((Collection.empty.find? "dev").map Doc.attrMap).getD (fun _ => .empty)
            (attrScopeSystem, attrNameCreated))) :=
  ⟨by decide, by decide, by decide, upserts_commute 1 2 (by decide) (by decide) (by decide)⟩

end TwoUpserts

/-! ### An upsert and a group write -/

/-- The spec's map of an upsert into a stored device reads the device's map only at
the pair it computes. -/
theorem expectedMap_some_congr {d e : Doc} {p : String × String} (h : d.attrMap p = e.attrMap p)
    (A : List DeviceAttribute) (now : Int) : expectedMap (some d) A now p = expectedMap (some e) A now p := by
  simp only [expectedMap_eq, Option.isNone_some, Bool.false_eq_true, false_and, if_false,
    Option.map_some', Option.getD_some, mergeAttrs_congr A h]

/-- **An upsert and `UpdateDeviceGroup` on an existing device commute**, when the
upsert does not name the group attribute: on a store that does not fail, both
orders leave the same documents for every other device and the same record for
every conventional pair of the device. -/
theorem upsert_group_commute {c : Collection} {id : DeviceID} {A : List DeviceAttribute} (now : Int)
    (g : String) (hA : ∀ a ∈ A, a.Ordinary)
    (hgrp : ∀ a ∈ A, (a.effScope, a.name) ≠ (attrScopeSystem, attrNameGroup))
    (hpres : (c.find? id).isSome) :
    (∀ id', id' ≠ id →
      (updateDeviceGroup .healthy (upsertAttributes .healthy now c id A).2 id g).2.find? id' =
        (upsertAttributes .healthy now (updateDeviceGroup .healthy c id g).2 id A).2.find? id') ∧
      ∃ d₁ d₂, (updateDeviceGroup .healthy (upsertAttributes .healthy now c id A).2 id g).2.find? id =
          some d₁ ∧
        (upsertAttributes .healthy now (updateDeviceGroup .healthy c id g).2 id A).2.find? id = some d₂ ∧
        ∀ s n, KeyConvention s n → d₁.attrMap (s, n) = d₂.attrMap (s, n) := by
  obtain ⟨d, hd⟩ := Option.isSome_iff_exists.mp hpres
  obtain ⟨-, hother₁, d', hfind', hmap'⟩ := upsertAttributes_ordinary c id now hA
  obtain ⟨e₁, he₁, -, hfind₁⟩ := updateDeviceGroup_present g hfind'
  obtain ⟨e, he, -, hfind⟩ := updateDeviceGroup_present g hd
  obtain ⟨-, hother₂, d₂, hfind₂, hmap₂⟩ :=
    upsertAttributes_ordinary (updateDeviceGroup .healthy c id g).2 id now hA
  rw [hfind, if_pos rfl] at hmap₂
  refine ⟨fun id' hne => ?_, e₁, d₂, by rw [hfind₁, if_pos rfl], hfind₂, fun s n hsn => ?_⟩
  · rw [hfind₁, if_neg hne, hother₁ id' hne, hother₂ id' hne, hfind, if_neg hne]
  rw [(setGroupUpdate_replaced he₁).attrMap_eq hsn, hmap₂ s n hsn, assignGroup]
  by_cases hp : (s, n) = (attrScopeSystem, attrNameGroup)
  · have hgrpe := (setGroupUpdate_replaced he).attrMap_eq (s := attrScopeSystem) (n := attrNameGroup)
      (by decide)
    rw [assignGroup, Function.update_same] at hgrpe
    rw [hp, Function.update_same, expectedMap_eq]
    simp only [Option.isNone_some, Bool.false_eq_true, false_and, if_false, Option.map_some',
      Option.getD_some, mergeAttrs_of_not_mem hgrp, hgrpe]
    exact (if_neg (by decide)).symm
  · rw [Function.update_noteq hp, hmap' s n hsn, hd]
    exact expectedMap_some_congr
      (by rw [(setGroupUpdate_replaced he).attrMap_eq hsn, assignGroup, Function.update_noteq hp]) A now

/-- A `mac` attribute and the group `g1`, written to a stored device in either order. -/
theorem upsert_group_commute_mac :
    (∀ a ∈ [(⟨"mac", none, some (.scalar (.str "00:11")), ""⟩ : DeviceAttribute)], a.Ordinary) ∧
    (∀ a ∈ [(⟨"mac", none, some (.scalar (.str "00:11")), ""⟩ : DeviceAttribute)],
      (a.effScope, a.name) ≠ (attrScopeSystem, attrNameGroup)) ∧
    ((upsertAttributes .healthy 1 Collection.empty "dev" []).2.find? "dev").isSome ∧
    ((∀ id', id' ≠ "dev" →
      (updateDeviceGroup .healthy (upsertAttributes .healthy 2
        (upsertAttributes .healthy 1 Collection.empty "dev" []).2 "dev"
          [⟨"mac", none, some (.scalar (.str "00:11")), ""⟩]).2 "dev" "g1").2.find? id' =
      (upsertAttributes .healthy 2 (updateDeviceGroup .healthy
        (upsertAttributes .healthy 1 Collection.empty "dev" []).2 "dev" "g1").2 "dev"
          [⟨"mac", none, some (.scalar (.str "00:11")), ""⟩]).2.find? id') ∧
      ∃ d₁ d₂, (updateDeviceGroup .healthy (upsertAttributes .healthy 2
          (upsertAttributes .healthy 1 Collection.empty "dev" []).2 "dev"
            [⟨"mac", none, some (.scalar (.str "00:11")), ""⟩]).2 "dev" "g1").2.find? "dev" = some d₁ ∧
        (upsertAttributes .healthy 2 (updateDeviceGroup .healthy
          (upsertAttributes .healthy 1 Collection.empty "dev" []).2 "dev" "g1").2 "dev"
            [⟨"mac", none, some (.scalar (.str "00:11")), ""⟩]).2.find? "dev" = some d₂ ∧
        ∀ s n, KeyConvention s n → d₁.attrMap (s, n) = d₂.attrMap (s, n)) :=
  ⟨by decide, by decide, by decide, upsert_group_commute 2 "g1" (by decide) (by decide) (by decide)⟩

end DeviceInventory
