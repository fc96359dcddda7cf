import DeviceInventory.Mongo.Frame

/-!
# Key sets: `$objectToArray`, `$unwind`, `$group` with `$addToSet`

The pipeline `GetAllAttributeNames` sends:

```
[ {$project: {arrayofkeyvalue: {$objectToArray: "$$ROOT.attributes"}}},
  {$unwind: "$arrayofkeyvalue"},
  {$group: {_id: nil, allkeys: {$addToSet: "$arrayofkeyvalue.v.name"}}} ]
```

## Main definitions

* `FieldValue`, `Doc.value?` — the value of a field: a leaf, or an embedded
  document given by its leaves below the field.
* `Doc.keysUnder`, `Doc.subdoc`, `Doc.keyValue` — the keys of an embedded
  document, the document at a field, and the element `{k, v}` of one key.
* `objectToArray`, `unwind`, `groupAddToSet` — the three stages.
* `aggregateKeySet` — `Aggregate` of the pipeline over the collection: the one
  group it makes, if any.

## Main statements

* `leafAt_subdoc`, `any_subdoc` — the embedded document at `p` reads, at `q`,
  what the document reads at `p ++ q`.
* `get_unwound`, `has_unwound` — so does the element an `$unwind` puts under
  `out.v`.
* `mem_unwind` — the documents `$unwind` makes: one per key of each row.
* `aggregateKeySet_eq_ok` — the group the pipeline makes over a collection whose
  documents hold an embedded document, or nothing, at the field.

## Design notes

These stages are not among the fragment `runPipeline` runs (`Aggregate` of
`GetDevices`): the pipeline here is a separate function of the names it is built
from, and its result is the cursor's batch, the group row given by its set.
`$addToSet` makes no promise of order; the model's is that of `List.dedup`.
-/

namespace DeviceInventory

/-! ### Values of fields -/

/-- The value of a field: a leaf, or an embedded document, given by its leaves by
path below the field. -/
inductive FieldValue where
  | leaf (l : Leaf)
  | doc (fs : Subtree)
deriving DecidableEq, Repr

namespace Doc

/-- The embedded document at `p`: the leaves below `p`, by path below it. -/
def subdoc (d : Doc) (p : Path) : Subtree := (d.under p).map fun f => (f.1.drop p.length, f.2)

/-- **The value of the field `p`**: the leaf there, the embedded document when some
leaf lies below it, or nothing. -/
def value? (d : Doc) (p : Path) : Option FieldValue :=
  match d.get p with
  | some l => some (.leaf l)
  | none => if d.has p then some (.doc (d.subdoc p)) else none

/-- The keys of the embedded document at `p`, each once. -/
def keysUnder (d : Doc) (p : Path) : List String :=
  ((d.under p).filterMap fun f => (f.1.drop p.length).head?).dedup

end Doc

/-- Leaves that all lie below `r`, read at `q` once `r` is dropped from their paths. -/
theorem leafAt_map_drop {r : Path} : ∀ {fs : Subtree}, (∀ f ∈ fs, r <+: f.1) → ∀ q : Path,
    leafAt (fs.map fun f => (f.1.drop r.length, f.2)) q = leafAt fs (r ++ q)
  | [], _, _ => rfl
  | f :: fs, h, q => by
      obtain ⟨s, hs⟩ := h f (List.mem_cons_self _ _)
      have ih := leafAt_map_drop (fun g hg => h g (List.mem_cons_of_mem _ hg)) q
      simp only [List.map_cons, leafAt_cons, ← hs, List.drop_left, List.append_cancel_left_eq, ih]

theorem leafAt_subdoc (d : Doc) (p q : Path) : leafAt (d.subdoc p) q = d.get (p ++ q) := by
  rw [Doc.subdoc, @leafAt_map_drop p (d.under p) (fun f hf => of_decide_eq_true (List.mem_filter.mp hf).2),
    Doc.get_eq_leafAt_under (List.prefix_append _ _)]

theorem any_subdoc (d : Doc) (p q : Path) :
    (d.subdoc p).any (fun x => decide (q <+: x.1)) = d.has (p ++ q) := by
  simp only [Doc.subdoc, Doc.under, Doc.has, List.any_map, List.any_filter]
  refine congrArg _ (funext fun f => ?_)
  by_cases hp : p <+: f.1
  · obtain ⟨s, hs⟩ := hp
    simp only [Function.comp, ← hs, List.drop_left, List.prefix_append_right_inj,
      List.prefix_append, decide_True, Bool.true_and]
  · have : ¬ p ++ q <+: f.1 := fun h => hp ((List.prefix_append p q).trans h)
    simp [hp, this]

theorem mem_keysUnder {d : Doc} {p : Path} {k : String} :
    k ∈ d.keysUnder p ↔ d.has (p ++ [k]) = true := by
  simp only [Doc.keysUnder, List.mem_dedup, List.mem_filterMap, Doc.under, List.mem_filter,
    decide_eq_true_eq, Doc.has_iff]
  constructor
  · rintro ⟨⟨_, l⟩, ⟨hf, s, rfl⟩, hk⟩
    rw [List.drop_left, List.head?_eq_some_iff] at hk
    obtain ⟨t, rfl⟩ := hk
    exact ⟨_, hf, ⟨t, by simp⟩⟩
  · rintro ⟨f, hf, t, ht⟩
    refine ⟨f, ⟨hf, (List.prefix_append p [k]).trans ⟨t, ht⟩⟩, ?_⟩
    simp [← ht]

/-! ### The stages -/

/-- An element `{k, v}` of the array `$objectToArray` makes. -/
structure KeyValue where
  k : String
  v : Subtree
deriving DecidableEq, Repr

/-- The element of the key `k` of the embedded document at `p`. -/
def Doc.keyValue (d : Doc) (p : Path) (k : String) : KeyValue := ⟨k, d.subdoc (p ++ [k])⟩

/-- **`{$objectToArray: "$$ROOT.<field>"}`** over a document: one element per key of
the embedded document at `p`; `null` (`none`) for a missing field; an error for a
field that holds a value that is not a document. -/
def objectToArray (d : Doc) (p : Path) : Except MongoError (Option (List KeyValue)) :=
  match d.get p with
  | some _ => .error (.badStage "$objectToArray")
  | none => .ok (if d.has p then some ((d.keysUnder p).map (d.keyValue p)) else none)

/-- The document `$unwind` makes of one element: the `_id` it came with, and the
element under `out`. -/
def KeyValue.unwound (kv : KeyValue) (out : String) (id : DeviceID) : Doc :=
  ⟨id, ([out, "k"], .scalar (.str kv.k)) :: kv.v.map fun x => ([out, "v"] ++ x.1, x.2)⟩

/-- **`{$unwind: "$<out>"}`** over the rows `{_id, <out>: array}` of the `$project`:
one document per element of the array; none for `null`. -/
def unwind (out : String) (rows : List (DeviceID × Option (List KeyValue))) : List Doc :=
  rows.flatMap fun row => (row.2.getD []).map (·.unwound out row.1)

/-- **`{$group: {_id: nil, <set>: {$addToSet: "$<p>"}}}`**: no group from no
documents; otherwise the one group, with the distinct values of the field `p` (a
document without it adds nothing). -/
def groupAddToSet (p : Path) (ds : List Doc) : Option (List FieldValue) :=
  if ds.isEmpty then none else some (ds.filterMap (·.value? p)).dedup

/-- **`Aggregate`** of `[{$project: {<out>: {$objectToArray: "$$ROOT.<field>"}}},
{$unwind: "$<out>"}, {$group: {_id: nil, <set>: {$addToSet: "$<path>"}}}]` over the
collection's documents: the batch of its cursor, the one group's set if there is
a group. -/
def aggregateKeySet (net : Backend) (c : Collection) (field out path : String) :
    Except MongoError (Option (List FieldValue)) :=
  match net.fails .aggregate with
  | some e => .error e
  | none => do
    let rows ← c.docs.mapM fun d => do
      let kvs ← objectToArray d (fieldPath field)
      pure (d.id, kvs)
    pure (groupAddToSet (fieldPath path) (unwind out rows))

/-! ### Reading what the stages make -/

theorem get_unwound (kv : KeyValue) (out : String) (id : DeviceID) (q : Path) :
    (kv.unwound out id).get (out :: "v" :: q) = leafAt kv.v q := by
  simp only [KeyValue.unwound, Doc.get, leafAt_cons, List.cons.injEq, true_and,
    show ¬ ("k" :: [] : Path) = "v" :: q by simp, ite_false]
  exact leafAt_map_prepend [out, "v"] q kv.v

theorem has_unwound (kv : KeyValue) (out : String) (id : DeviceID) (q : Path) :
    (kv.unwound out id).has (out :: "v" :: q) = kv.v.any fun x => decide (q <+: x.1) := by
  have hk : ¬ (out :: "v" :: q <+: [out, "k"]) := fun h =>
    absurd (List.cons_prefix_cons.mp (List.cons_prefix_cons.mp h).2).1 (by decide)
  simp only [KeyValue.unwound, Doc.has, List.any_cons, List.any_map, hk, decide_False,
    Bool.false_or]
  refine congrArg _ (funext fun x => ?_)
  simp only [Function.comp, List.cons_append, List.nil_append, List.cons_prefix_cons, true_and]

theorem mem_unwind {out : String} {rows : List (DeviceID × Option (List KeyValue))} {u : Doc} :
    u ∈ unwind out rows ↔ ∃ row ∈ rows, ∃ kv ∈ row.2.getD [], u = kv.unwound out row.1 := by
  simp only [unwind, List.mem_flatMap, List.mem_map]
  exact exists_congr fun row => and_congr_right fun _ =>
    exists_congr fun kv => and_congr_right fun _ => eq_comm

theorem keysUnder_of_not_has {d : Doc} {p : Path} (h : d.has p = false) : d.keysUnder p = [] := by
  rw [Doc.keysUnder, Doc.under_eq_nil_iff.mpr h]
  rfl

/-- An element `$unwind` made of a key reads, below `out.v`, the leaf the document
holds below the key. -/
theorem value?_unwound_of_get {d : Doc} {p q : Path} {k out : String} {l : Leaf} (id : DeviceID)
    (h : d.get (p ++ [k] ++ q) = some l) :
    ((d.keyValue p k).unwound out id).value? (out :: "v" :: q) = some (.leaf l) := by
  rw [Doc.value?, get_unwound, Doc.keyValue, leafAt_subdoc, h]

/-- An element `$unwind` made of a key has no value below `out.v` where the document
has none below the key. -/
theorem value?_unwound_of_not_has {d : Doc} {p q : Path} {k out : String} (id : DeviceID)
    (h : d.has (p ++ [k] ++ q) = false) :
    ((d.keyValue p k).unwound out id).value? (out :: "v" :: q) = none := by
  rw [Doc.value?, get_unwound, Doc.keyValue, leafAt_subdoc, Doc.get_eq_none_of_has h, has_unwound,
    any_subdoc, h]
  rfl

/-- **The pipeline over a collection none of whose documents holds a plain value at
`field`**: the group of the values of `path` over one document per key of each
document's embedded document. -/
theorem aggregateKeySet_eq_ok {net : Backend} (hnet : net.fails .aggregate = none) {c : Collection}
    {field : String} (h : ∀ d ∈ c.docs, d.get (fieldPath field) = none) (out path : String) :
    aggregateKeySet net c field out path = .ok (groupAddToSet (fieldPath path)
      (c.docs.flatMap fun d => (d.keysUnder (fieldPath field)).map fun k =>
        (d.keyValue (fieldPath field) k).unwound out d.id)) := by
  let row := fun d : Doc => (d.id, if d.has (fieldPath field) then
    some ((d.keysUnder (fieldPath field)).map (d.keyValue (fieldPath field))) else none)
  have hrows : c.docs.mapM (fun d => do
      let kvs ← objectToArray d (fieldPath field)
      pure (d.id, kvs)) = .ok (c.docs.map row) :=
    mapM_eq_ok fun d hd => by simp only [objectToArray, h d hd]; rfl
  have hunwind : unwind out (c.docs.map row) = c.docs.flatMap fun d =>
      (d.keysUnder (fieldPath field)).map fun k => (d.keyValue (fieldPath field) k).unwound out d.id := by
    rw [unwind, List.flatMap_map]
    refine List.flatMap_congr fun d _ => ?_
    cases hhas : d.has (fieldPath field)
    · simp [row, hhas, keysUnder_of_not_has hhas]
    · simp [row, hhas]
  simp only [aggregateKeySet, hnet, hrows]
  rw [← hunwind]
  rfl

end DeviceInventory
