import DeviceInventory.Bson.Path
import Mathlib.Data.Prod.Lex
import Mathlib.Data.String.Basic

/-!
# Device documents

One document of the `devices` collection per device, keyed by `_id`, holding the
`attributes` sub-document the store writes:

```
{ _id: "1",
  attributes: { "inventory-mac":  { scope: "inventory", name: "mac", value: "00:11" },
                "system-group":   { scope: "system", name: "group", value: "prod" },
                "system-updated": { scope: "system", name: "updated", value: <date> } } }
```

## Main definitions

* `Scalar`, `Leaf` — the values the store writes: strings, numbers, booleans and
  dates, alone or in an array.
* `Doc` — a document, **flattened**: its `_id` and the list of its leaves, each
  under its full `Path`.  The example has the leaves `attributes.inventory-mac.scope`,
  `attributes.inventory-mac.name`, `attributes.inventory-mac.value`, and so on.
* `Doc.get`, `Doc.has` — the leaf at a path, and MongoDB's `$exists`: some leaf
  at or below the path.
* `Doc.Layout` — the shape every document of the store has: each leaf lies
  inside an attribute record, at least two levels below `attributes`.
* `eqMatch` — MongoDB equality, `{field: v}`.
* `SortKey`, `Doc.sortKey` — MongoDB's sort order on a field.

## Design notes

The flat form is what makes dotted names tractable: a `$set` of `p` removes the
leaves at or below `p` and adds the new ones, and which leaves survive is a
`List.filter` on `<+:`.  Embedded documents never appear as values the store
compares (attribute values are scalars or arrays of scalars); where a dotted
attribute name does put one under a compared field, it is a `SortKey.object`, and
the model does not order such keys among themselves.  Numbers are Go `float64`s
the store only ever compares, kept as integers.
-/

namespace DeviceInventory

/-- A BSON scalar as the store writes and compares it. -/
inductive Scalar where
  | str (s : String)
  | num (n : Int)
  | bool (b : Bool)
  | date (t : Int)
deriving DecidableEq, Repr, Inhabited

/-- A leaf of a document: a scalar, or an array of scalars. -/
inductive Leaf where
  | scalar (v : Scalar)
  | array (vs : List Scalar)
deriving DecidableEq, Repr, Inhabited

/-- `model.DeviceID`, the `_id` of a device document. -/
abbrev DeviceID := String

/-- A device document, flattened into its leaves. -/
structure Doc where
  id : DeviceID
  fields : List (Path × Leaf)
deriving DecidableEq, Repr

/-- The leaf stored exactly at `p` in a list of leaves. -/
def leafAt (fs : List (Path × Leaf)) (p : Path) : Option Leaf :=
  (fs.find? fun f => decide (f.1 = p)).map Prod.snd

@[simp] theorem leafAt_nil (p : Path) : leafAt [] p = none := rfl

@[simp] theorem leafAt_append (xs ys : List (Path × Leaf)) (p : Path) :
    leafAt (xs ++ ys) p = (leafAt xs p).or (leafAt ys p) := by
  simp only [leafAt, List.find?_append]
  cases xs.find? fun f => decide (f.1 = p) <;> rfl

@[simp] theorem leafAt_cons (f : Path × Leaf) (fs : List (Path × Leaf)) (p : Path) :
    leafAt (f :: fs) p = if f.1 = p then some f.2 else leafAt fs p := by
  by_cases h : f.1 = p <;> simp [leafAt, List.find?_cons, h]

/-- Filtering keeps the leaf at `p` when the filter keeps every leaf at `p`. -/
theorem leafAt_filter {fs : List (Path × Leaf)} {keep : Path × Leaf → Bool} {p : Path}
    (h : ∀ f ∈ fs, f.1 = p → keep f = true) : leafAt (fs.filter keep) p = leafAt fs p := by
  induction fs with
  | nil => rfl
  | cons f fs ih =>
      have ih := ih fun g hg => h g (List.mem_cons_of_mem f hg)
      by_cases hp : f.1 = p
      · simp [List.filter_cons, h f (List.mem_cons_self f fs) hp, hp]
      · by_cases hk : keep f <;> simp [List.filter_cons, hk, hp, ih]

/-- A leaf found at `p` is a leaf of the list, at `p`. -/
theorem mem_of_leafAt {fs : List (Path × Leaf)} {p : Path} {l : Leaf} (h : leafAt fs p = some l) :
    (p, l) ∈ fs := by
  obtain ⟨f, hf, rfl⟩ := Option.map_eq_some'.mp h
  have hfp : f.1 = p := by simpa using List.find?_some hf
  rw [← hfp]
  exact List.mem_of_find?_eq_some hf

/-- No leaf sits at `p`. -/
theorem leafAt_eq_none {fs : List (Path × Leaf)} {p : Path} (h : ∀ f ∈ fs, f.1 ≠ p) :
    leafAt fs p = none := by
  simpa [leafAt] using h

namespace Doc

/-- The leaf stored exactly at `p`. -/
def get (d : Doc) (p : Path) : Option Leaf := leafAt d.fields p

/-- **`$exists`**: some leaf lies at or below `p`. -/
def has (d : Doc) (p : Path) : Bool := d.fields.any fun f => decide (p <+: f.1)

/-- The leaves at or below `p`. -/
def under (d : Doc) (p : Path) : List (Path × Leaf) := d.fields.filter fun f => decide (p <+: f.1)

/-- **The store's document layout**: every leaf lies inside an attribute record,
at least two levels below `attributes` (`attributes.<key>.<field>`). -/
def Layout (d : Doc) : Prop := ∀ f ∈ d.fields, f.1.head? = some "attributes" ∧ 3 ≤ f.1.length

instance (d : Doc) : Decidable d.Layout :=
  inferInstanceAs (Decidable (∀ f ∈ d.fields, _))

/-- Two documents hold the same leaves at the same paths: an update that turns
the one into the other has modified nothing. -/
def Same (d e : Doc) : Bool := (d.fields ++ e.fields).all fun f => d.get f.1 = e.get f.1

theorem has_iff {d : Doc} {p : Path} : d.has p = true ↔ ∃ f ∈ d.fields, p <+: f.1 := by
  simp [has]

theorem under_eq_nil_iff {d : Doc} {p : Path} : d.under p = [] ↔ d.has p = false := by
  simp [under, has, List.filter_eq_nil_iff]

/-- A field with a leaf at `p` exists at every path above `p`. -/
theorem has_of_get {d : Doc} {p q : Path} {w : Leaf} (h : d.get p = some w) (hq : q <+: p) :
    d.has q = true := by
  obtain ⟨f, hf, -⟩ := Option.map_eq_some'.mp h
  have hfp : f.1 = p := by simpa using List.find?_some hf
  exact has_iff.mpr ⟨f, List.mem_of_find?_eq_some hf, hfp ▸ hq⟩

/-- No leaf sits at a path no field lies at or below. -/
theorem get_eq_none_of_has {d : Doc} {p : Path} (h : d.has p = false) : d.get p = none := by
  cases hg : d.get p with
  | none => rfl
  | some _ => rw [has_of_get hg List.prefix_rfl] at h; cases h

end Doc

/-! ### Equality -/

/-- An operand a filter compares a field with: a BSON value, or `null` (Go's `nil`). -/
inductive Operand where
  | null
  | leaf (v : Leaf)
deriving DecidableEq, Repr

/-- A stored leaf `w` holds the value `v` under MongoDB equality: it is `v`, or it
is an array with `v` among its elements. -/
def Leaf.holds (w v : Leaf) : Bool :=
  decide (w = v) || match w, v with
    | .array xs, .scalar s => xs.contains s
    | _, _ => false

/-- **MongoDB equality**, `{field: v}` and `{field: {$eq: v}}`: the field holds
`v`; `null` matches exactly where the field is absent. -/
def eqMatch (d : Doc) (p : Path) : Operand → Bool
  | .null => !d.has p
  | .leaf v => match d.get p with
    | some w => w.holds v
    | none => false

/-- A field that equals a value exists, and so does every field above it. -/
theorem has_of_eqMatch {d : Doc} {p q : Path} {v : Leaf} (h : eqMatch d p (.leaf v) = true)
    (hq : q <+: p) : d.has q = true := by
  simp only [eqMatch] at h
  split at h
  · exact Doc.has_of_get ‹_› hq
  · cases h

/-- A string field equals a string only when it holds that string. -/
theorem eqMatch_str_iff {d : Doc} {p : Path} {s : String} :
    eqMatch d p (.leaf (.scalar (.str s))) = true ↔
      d.get p = some (.scalar (.str s)) ∨ ∃ xs, d.get p = some (.array xs) ∧ Scalar.str s ∈ xs := by
  rcases h : d.get p with _ | w
  · simp [eqMatch, h]
  · cases w <;> simp [eqMatch, h, Leaf.holds]

/-! ### Sort order -/

/-- A value's place in MongoDB's sort order: by BSON type first (an empty array,
then a missing field, numbers, strings, embedded documents, booleans, dates),
then by value. -/
inductive SortKey where
  | emptyArray
  | missing
  | num (n : Int)
  | str (s : String)
  | object
  | bool (b : Bool)
  | date (t : Int)
deriving DecidableEq, Repr, Inhabited

namespace SortKey

/-- The key as a lexicographic triple: type rank, numeric part, string part. -/
def rank : SortKey → ℕ ×ₗ ℤ ×ₗ String
  | emptyArray => toLex (0, toLex (0, ""))
  | missing => toLex (1, toLex (0, ""))
  | num n => toLex (2, toLex (n, ""))
  | str s => toLex (3, toLex (0, s))
  | object => toLex (4, toLex (0, ""))
  | bool b => toLex (5, toLex (if b then 1 else 0, ""))
  | date t => toLex (6, toLex (t, ""))

/-- MongoDB's order on sort keys. -/
def le (a b : SortKey) : Bool := decide (a.rank ≤ b.rank)

theorem le_trans' {a b c : SortKey} (hab : a.le b = true) (hbc : b.le c = true) : a.le c = true := by
  simp only [le, decide_eq_true_eq] at *
  exact le_trans hab hbc

theorem le_total' (a b : SortKey) : a.le b || b.le a := by
  simpa [le] using le_total a.rank b.rank

/-- The lesser of two keys. -/
def min (a b : SortKey) : SortKey := if a.le b then a else b

/-- The greater of two keys. -/
def max (a b : SortKey) : SortKey := if a.le b then b else a

end SortKey

/-- A scalar's sort key. -/
def Scalar.key : Scalar → SortKey
  | .str s => .str s
  | .num n => .num n
  | .bool b => .bool b
  | .date t => .date t

/-- **The key MongoDB sorts a document by on the field `p`.**  An array sorts by
its least element going up and by its greatest going down, and an empty array
before everything. -/
def Doc.sortKey (ascending : Bool) (d : Doc) (p : Path) : SortKey :=
  match d.get p with
  | some (.scalar s) => s.key
  | some (.array []) => .emptyArray
  | some (.array (x :: xs)) =>
      xs.foldl (fun k y => if ascending then k.min y.key else k.max y.key) x.key
  | none => if d.has p then .object else .missing

/-- The order a `$sort` on `p` puts documents in: by key, going up when
`ascending` and down otherwise. -/
def sortOrder (p : Path) (ascending : Bool) (a b : Doc) : Bool :=
  if ascending then (a.sortKey true p).le (b.sortKey true p)
  else (b.sortKey false p).le (a.sortKey false p)

theorem sortOrder_trans {p : Path} {ascending : Bool} {a b c : Doc}
    (hab : sortOrder p ascending a b = true) (hbc : sortOrder p ascending b c = true) :
    sortOrder p ascending a c = true := by
  cases ascending
  · exact SortKey.le_trans' hbc hab
  · exact SortKey.le_trans' hab hbc

theorem sortOrder_total (p : Path) (ascending : Bool) (a b : Doc) :
    sortOrder p ascending a b || sortOrder p ascending b a := by
  cases ascending
  · simpa [sortOrder, Bool.or_comm] using SortKey.le_total' (a.sortKey false p) (b.sortKey false p)
  · simpa [sortOrder] using SortKey.le_total' (a.sortKey true p) (b.sortKey true p)

end DeviceInventory
