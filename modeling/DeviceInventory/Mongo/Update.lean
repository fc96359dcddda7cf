import DeviceInventory.Mongo.Query
import Mathlib.Data.List.Sort

/-!
# Update documents

What the server does with `{$set: …, $setOnInsert: …, $unset: …}` on one
document.  It first checks the update document as a whole — every field name
free of empty segments, and no two names `Conflicting` (`Updating the path 'x'
would create a conflict at 'x'`), across all three operators, whether or not
the write turns into an insert — and then applies it.

## Main definitions

* `Update` — the three operators, each a map from dotted field names.
* `Update.check` — the server's check of an update document.
* `setField`, `unsetField` — one `$set`, one `$unset`, on the flattened document.
* `Update.writes` — the `$set`s (and on insert the `$setOnInsert`s) in the order
  the server applies them: by field name, segment by segment.
* `Update.apply` — the whole update, with `$setOnInsert` applied only on insert.
* `Doc.valueAt`, `Update.modifies` — the value of a field as the server compares
  it, field order included, and the server's test of whether an update changes a
  stored document.

## Main statements

* `setField_eq_ok` — a `$set` of `p` puts the new leaves among the leaves outside
  `p`, which keep their order.
* `setField_get_of_outside`, `setField_get_append` — after a `$set` of `p`,
  a field outside `p` reads as before and a field inside `p` reads the new value.
* `setField_under`, `unsetField_under` — a write leaves every field that does
  not conflict with it exactly as it was.
* `Update.apply_forall`, `Update.apply_layout` — an update whose writes all have a
  property of leaves keeps it of every leaf; so an update whose writes keep to the
  store's layout keeps a document in it.

## Design notes

A flattened document keeps its leaves in the order BSON stores them, because the
server's no-op test compares bytes: a `$set` of a field that exists replaces its
leaves where they stand (`replaceUnder`), a field that does not exist is created
last in the deepest embedded document above it (`insertAfter`, `parentField`), and
the writes of one update are applied in the lexicographic order of their field
names (`pathLE`).  Field names made only of digits, which the server orders as
numbers, are ordered as strings.
-/

namespace DeviceInventory

/-- A value a `$set` writes at a field: its leaves, by path below the field.  A
plain value is the single leaf at `[]`; an encoded struct has one leaf per
field. -/
abbrev Subtree := List (Path × Leaf)

/-- An update document. -/
structure Update where
  set : List (String × Subtree)
  setOnInsert : List (String × Subtree)
  unset : List String

/-- Every field name an update document names, across its operators. -/
def Update.fields (u : Update) : List String :=
  u.set.map (·.1) ++ u.setOnInsert.map (·.1) ++ u.unset

/-- The first name of a list that conflicts with a later one. -/
def firstConflict : List String → Option String
  | [] => none
  | k :: ks =>
      if ks.any fun k' => decide (Conflicting (fieldPath k) (fieldPath k')) then some k
      else firstConflict ks

/-- **The server's check of an update document**, made before any document is
touched. -/
def Update.check (u : Update) : Except MongoError Unit :=
  match u.fields.find? fun k => (fieldPath k).contains "" with
  | some k => .error (.emptyFieldName k)
  | none =>
    match firstConflict u.fields with
    | some k => .error (.conflict k)
    | none => .ok ()

/-- **The leaves `new` in place of the leaves at or below `p`**: where the first of
them stood, the others dropped.  A field the server replaces keeps its position. -/
def replaceUnder (p : Path) (new : List (Path × Leaf)) : List (Path × Leaf) → List (Path × Leaf)
  | [] => new
  | f :: fs =>
      if p <+: f.1 then new ++ fs.filter fun g => !decide (p <+: g.1)
      else f :: replaceUnder p new fs

/-- **The leaves `new` right after the last leaf at or below `a`**, or last when no
leaf is: a field the server creates goes last in the embedded document receiving it. -/
def insertAfter (a : Path) (new : List (Path × Leaf)) : List (Path × Leaf) → List (Path × Leaf)
  | [] => new
  | f :: fs =>
      if a <+: f.1 ∧ (fs.any fun g => decide (a <+: g.1)) = false then f :: (new ++ fs)
      else f :: insertAfter a new fs

/-- The deepest field strictly above `p` that holds a leaf of `fs`: the embedded
document in which the server creates `p` (the document itself, `[]`, if none). -/
def parentField (fs : List (Path × Leaf)) (p : Path) : Path :=
  (((List.range p.length).reverse.map p.take).find? fun a => fs.any fun f => decide (a <+: f.1)).getD []

/-- **`$set` of the field `p`**: the leaves at or below `p` give way to the new
value's, in place when the field exists.  A leaf strictly above `p` is a value the
server cannot descend into. -/
def setField (p : Path) (v : Subtree) (d : Doc) : Except MongoError Doc :=
  if d.fields.any fun f => decide (f.1 <+: p ∧ f.1 ≠ p) then .error (.cannotCreateField p)
  else
    let new := v.map fun x => (p ++ x.1, x.2)
    .ok { d with fields := if d.has p then replaceUnder p new d.fields
                           else insertAfter (parentField d.fields p) new d.fields }

/-- **`$unset` of the field `p`**: the leaves at or below `p` go. -/
def unsetField (p : Path) (d : Doc) : Doc :=
  { d with fields := d.fields.filter fun f => !decide (p <+: f.1) }

/-- The `$set`s of a map, one after the other. -/
def setFields : List (String × Subtree) → Doc → Except MongoError Doc
  | [], d => .ok d
  | (k, v) :: rest, d => (setField (fieldPath k) v d).bind (setFields rest)

/-- **The order in which the server applies the fields of one update**: segment by
segment, each by the code points of its characters (the byte order of UTF-8); a
path before the paths it is a prefix of. -/
def pathLE : Path → Path → Bool
  | [], _ => true
  | _ :: _, [] => false
  | a :: p, b :: q => decide (a.data < b.data) || (a == b && pathLE p q)

/-- **The writes of an update, in the order the server applies them**: its `$set`s,
and on insert its `$setOnInsert`s among them, sorted by field name. -/
def Update.writes (u : Update) (insert : Bool) : List (String × Subtree) :=
  (if insert then u.set ++ u.setOnInsert else u.set).insertionSort
    fun a b => pathLE (fieldPath a.1) (fieldPath b.1) = true

/-- **An update applied to one document**; `insert` says whether the write is
the insert of an upsert, the only case `$setOnInsert` acts in. -/
def Update.apply (u : Update) (insert : Bool) (d : Doc) : Except MongoError Doc := do
  u.check
  let d ← setFields (u.writes insert) d
  pure (u.unset.foldl (fun d k => unsetField (fieldPath k) d) d)

/-- **The value of the field `p` as the server compares it**: the leaves at or below
`p`, in the order they are stored, each by its path below `p`. -/
def Doc.valueAt (d : Doc) (p : Path) : Subtree := (d.under p).map fun f => (f.1.drop p.length, f.2)

/-- **The server's no-op test**: an update modifies a stored document unless every
`$set` writes a value identical to the field's, field order included, and every
`$unset` names a field the document does not have. -/
def Update.modifies (u : Update) (d : Doc) : Bool :=
  u.set.any (fun kv => decide (d.valueAt (fieldPath kv.1) ≠ kv.2)) || u.unset.any fun k => d.has (fieldPath k)

/-! ### Reading a field after a write -/

theorem replaceUnder_split (p : Path) (new : List (Path × Leaf)) : ∀ fs : List (Path × Leaf),
    ∃ l₁ l₂, replaceUnder p new fs = l₁ ++ new ++ l₂ ∧ l₁ ++ l₂ = fs.filter fun f => !decide (p <+: f.1)
  | [] => ⟨[], [], by simp [replaceUnder], rfl⟩
  | f :: fs => by
      by_cases h : p <+: f.1
      · exact ⟨[], fs.filter fun g => !decide (p <+: g.1), by simp [replaceUnder, h],
          by simp [List.filter_cons, h]⟩
      · obtain ⟨l₁, l₂, h₁, h₂⟩ := replaceUnder_split p new fs
        exact ⟨f :: l₁, l₂, by simp [replaceUnder, h, h₁], by simp [List.filter_cons, h, h₂]⟩

theorem insertAfter_split (a : Path) (new : List (Path × Leaf)) : ∀ fs : List (Path × Leaf),
    ∃ l₁ l₂, insertAfter a new fs = l₁ ++ new ++ l₂ ∧ l₁ ++ l₂ = fs
  | [] => ⟨[], [], by simp [insertAfter], rfl⟩
  | f :: fs => by
      unfold insertAfter
      split
      · exact ⟨[f], fs, by simp, rfl⟩
      · obtain ⟨l₁, l₂, h₁, h₂⟩ := insertAfter_split a new fs
        exact ⟨f :: l₁, l₂, by simp [h₁], by simp [h₂]⟩

/-- **What a `$set` of `p` makes of a document**: the new leaves, somewhere among the
leaves outside `p`, which keep their order. -/
theorem setField_eq_ok {p : Path} {v : Subtree} {d d' : Doc} (h : setField p v d = .ok d') :
    d'.id = d.id ∧ ∃ l₁ l₂, d'.fields = l₁ ++ v.map (fun x => (p ++ x.1, x.2)) ++ l₂ ∧
      l₁ ++ l₂ = d.fields.filter fun f => !decide (p <+: f.1) := by
  unfold setField at h
  split at h
  · cases h
  obtain rfl := (Except.ok.inj h).symm
  refine ⟨rfl, ?_⟩
  split
  · exact replaceUnder_split p _ d.fields
  · rename_i hp
    obtain ⟨l₁, l₂, h₁, h₂⟩ := insertAfter_split (parentField d.fields p) (v.map fun x => (p ++ x.1, x.2)) d.fields
    refine ⟨l₁, l₂, h₁, h₂.trans (List.filter_eq_self.mpr fun f hf => ?_).symm⟩
    simp only [Doc.has, List.any_eq_true, decide_eq_true_eq, not_exists, not_and, Bool.not_eq_true] at hp
    simpa using hp f hf

/-- The leaves a `$set` of `p` keeps lie outside `p`. -/
theorem not_prefix_of_mem_kept {p : Path} {fs l₁ l₂ : List (Path × Leaf)}
    (h : l₁ ++ l₂ = fs.filter fun f => !decide (p <+: f.1)) {f : Path × Leaf} (hf : f ∈ l₁ ++ l₂) :
    ¬ p <+: f.1 := by
  rw [h, List.mem_filter] at hf
  simpa using hf.2

@[simp] theorem setField_id {p : Path} {v : Subtree} {d d' : Doc} (h : setField p v d = .ok d') :
    d'.id = d.id :=
  (setField_eq_ok h).1

@[simp] theorem unsetField_id (p : Path) (d : Doc) : (unsetField p d).id = d.id := rfl

/-- The leaves a `$set` of `p` writes, read at a path `p ++ r`. -/
theorem leafAt_map_prepend (p r : Path) (v : Subtree) :
    leafAt (v.map fun x => (p ++ x.1, x.2)) (p ++ r) = leafAt v r := by
  induction v with
  | nil => rfl
  | cons x v ih => simp [ih]

/-- None of the leaves a `$set` of `p` writes lies outside `p`. -/
theorem leafAt_map_prepend_of_outside {p q : Path} (v : Subtree) (h : ¬ p <+: q) :
    leafAt (v.map fun x => (p ++ x.1, x.2)) q = none :=
  leafAt_eq_none fun f hf heq => by
    obtain ⟨x, -, rfl⟩ := List.mem_map.mp hf
    exact h ⟨x.1, heq⟩

/-- **A field outside `p` reads as before a `$set` of `p`.** -/
theorem setField_get_of_outside {p q : Path} {v : Subtree} {d d' : Doc}
    (h : setField p v d = .ok d') (hq : ¬ p <+: q) : d'.get q = d.get q := by
  obtain ⟨-, l₁, l₂, hd', hl⟩ := setField_eq_ok h
  calc d'.get q = leafAt (l₁ ++ l₂) q := by
        simp only [Doc.get, hd', leafAt_append, leafAt_map_prepend_of_outside v hq, Option.or_none]
    _ = d.get q := by rw [hl]; exact leafAt_filter fun f _ hf => by simpa [hf] using hq

/-- **A field inside `p` reads the value a `$set` of `p` wrote.** -/
theorem setField_get_append {p r : Path} {v : Subtree} {d d' : Doc}
    (h : setField p v d = .ok d') : d'.get (p ++ r) = leafAt v r := by
  obtain ⟨-, l₁, l₂, hd', hl⟩ := setField_eq_ok h
  have hgone : ∀ l, (∀ f ∈ l, f ∈ l₁ ++ l₂) → leafAt l (p ++ r) = none := fun l hl' =>
    leafAt_eq_none fun f hf heq => not_prefix_of_mem_kept hl (hl' f hf) (heq ▸ List.prefix_append p r)
  simp [Doc.get, hd', leafAt_map_prepend, hgone l₁ fun f hf => List.mem_append_left _ hf,
    hgone l₂ fun f hf => List.mem_append_right _ hf]

/-- **After a `$set` of `p`, the field `p` holds the value written**, field for field
and in order. -/
theorem setField_valueAt {p : Path} {v : Subtree} {d d' : Doc} (h : setField p v d = .ok d') :
    d'.valueAt p = v := by
  obtain ⟨-, l₁, l₂, hd', hl⟩ := setField_eq_ok h
  have hnone : ∀ l : List (Path × Leaf), (∀ f ∈ l, f ∈ l₁ ++ l₂) →
      l.filter (fun f => decide (p <+: f.1)) = [] := fun l hl' =>
    List.filter_eq_nil_iff.mpr fun f hf => by simpa using not_prefix_of_mem_kept hl (hl' f hf)
  have hnew : (v.map fun x => (p ++ x.1, x.2)).filter (fun f => decide (p <+: f.1)) =
      v.map fun x => (p ++ x.1, x.2) :=
    List.filter_eq_self.mpr fun f hf => by
      obtain ⟨x, -, rfl⟩ := List.mem_map.mp hf
      simp
  simp only [Doc.valueAt, Doc.under, hd', List.filter_append, hnew,
    hnone l₁ fun f hf => List.mem_append_left _ hf, hnone l₂ fun f hf => List.mem_append_right _ hf,
    List.nil_append, List.append_nil, List.map_map]
  conv_rhs => rw [← List.map_id v]
  exact List.map_congr_left fun x _ => by simp

/-- **A `$set` leaves every field that does not conflict with it as it was**, down to
the order of its leaves. -/
theorem setField_under {p q : Path} {v : Subtree} {d d' : Doc}
    (h : setField p v d = .ok d') (hpq : ¬ Conflicting p q) : d'.under q = d.under q := by
  obtain ⟨-, l₁, l₂, hd', hl⟩ := setField_eq_ok h
  have hnew : ((v.map fun x => (p ++ x.1, x.2)).filter fun f => decide (q <+: f.1)) = [] := by
    rw [List.filter_eq_nil_iff]
    intro f hf hqf
    obtain ⟨x, -, rfl⟩ := List.mem_map.mp hf
    exact hpq (conflicting_of_prefixes (List.prefix_append p x.1) (of_decide_eq_true hqf))
  calc d'.under q = (l₁ ++ l₂).filter fun f => decide (q <+: f.1) := by
        simp only [Doc.under, hd', List.filter_append, hnew, List.append_nil]
    _ = d.under q := by
        rw [hl, List.filter_filter, Doc.under]
        congr 1
        funext f
        by_cases hq : q <+: f.1
        · have : ¬ p <+: f.1 := fun hp => hpq (conflicting_of_prefixes hp hq)
          simp [hq, this]
        · simp [hq]

/-- A `$unset` leaves every field that does not conflict with it as it was. -/
theorem unsetField_under {p q : Path} (d : Doc) (hpq : ¬ Conflicting p q) :
    (unsetField p d).under q = d.under q := by
  simp only [unsetField, Doc.under, List.filter_filter]
  congr 1
  funext f
  by_cases hq : q <+: f.1
  · have : ¬ p <+: f.1 := fun hp => hpq (conflicting_of_prefixes hp hq)
    simp [hq, this]
  · simp [hq]

/-- A field outside `p` reads as before a `$unset` of `p`. -/
theorem unsetField_get_of_outside {p q : Path} (d : Doc) (hq : ¬ p <+: q) :
    (unsetField p d).get q = d.get q :=
  leafAt_filter fun f _ hf => by simpa [hf] using hq

/-- After a `$unset` of `p`, nothing lies at or below `p`. -/
theorem unsetField_has_self (p : Path) (d : Doc) : (unsetField p d).has p = false := by
  simp [unsetField, Doc.has]

/-! ### The store's layout -/

/-- A path inside an attribute record, where the store keeps every leaf. -/
def LayoutPath (p : Path) : Prop := p.head? = some "attributes" ∧ 3 ≤ p.length

instance (p : Path) : Decidable (LayoutPath p) := inferInstanceAs (Decidable (_ ∧ _))

/-- Every leaf a `$set` of `p` with the value `v` writes lands inside an attribute record. -/
def WritesInLayout (p : Path) (v : Subtree) : Prop := ∀ x ∈ v, LayoutPath (p ++ x.1)

/-- The writes of an update document all keep to the store's layout. -/
def Update.Shaped (u : Update) : Prop :=
  ∀ kv ∈ u.set ++ u.setOnInsert, WritesInLayout (fieldPath kv.1) kv.2

/-- **A `$set` keeps a property of every leaf** when each leaf it writes has it. -/
theorem setField_forall {Q : Path × Leaf → Prop} {p : Path} {v : Subtree} {d d' : Doc}
    (h : setField p v d = .ok d') (hd : ∀ f ∈ d.fields, Q f) (hv : ∀ x ∈ v, Q (p ++ x.1, x.2)) :
    ∀ f ∈ d'.fields, Q f := by
  obtain ⟨-, l₁, l₂, hd', hl⟩ := setField_eq_ok h
  have hkept : ∀ f ∈ l₁ ++ l₂, Q f := fun f hf => hd f (List.mem_filter.mp (hl ▸ hf)).1
  intro f hf
  simp only [hd', List.mem_append, List.mem_map] at hf
  rcases hf with (hf | ⟨x, hx, rfl⟩) | hf
  · exact hkept f (List.mem_append_left _ hf)
  · exact hv x hx
  · exact hkept f (List.mem_append_right _ hf)

theorem setFields_forall {Q : Path × Leaf → Prop} : ∀ {kvs : List (String × Subtree)} {d d' : Doc},
    setFields kvs d = .ok d' → (∀ f ∈ d.fields, Q f) →
    (∀ kv ∈ kvs, ∀ x ∈ kv.2, Q (fieldPath kv.1 ++ x.1, x.2)) → ∀ f ∈ d'.fields, Q f
  | [], d, d', h, hd, _ => by cases h; exact hd
  | (k, v) :: rest, d, d', h, hd, hkv => by
      simp only [setFields] at h
      rcases hset : setField (fieldPath k) v d with e | d₁
      · simp [hset, Except.bind] at h
      · rw [hset] at h
        exact setFields_forall h (setField_forall hset hd (hkv _ (List.mem_cons_self _ _)))
          fun kv hkv' => hkv kv (List.mem_cons_of_mem _ hkv')

/-- A `$unset` only takes leaves away. -/
theorem unsetFields_forall {Q : Path × Leaf → Prop} (ks : List String) {d : Doc}
    (hd : ∀ f ∈ d.fields, Q f) : ∀ f ∈ (ks.foldl (fun d k => unsetField (fieldPath k) d) d).fields, Q f := by
  induction ks generalizing d with
  | nil => exact hd
  | cons k ks ih => exact ih fun f hf => hd f (List.mem_filter.mp hf).1

theorem setField_layout {p : Path} {v : Subtree} {d d' : Doc} (h : setField p v d = .ok d')
    (hd : d.Layout) (hv : WritesInLayout p v) : d'.Layout :=
  setField_forall (Q := fun f => LayoutPath f.1) h hd hv

theorem setFields_layout {kvs : List (String × Subtree)} {d d' : Doc} (h : setFields kvs d = .ok d')
    (hd : d.Layout) (hkv : ∀ kv ∈ kvs, WritesInLayout (fieldPath kv.1) kv.2) : d'.Layout :=
  setFields_forall (Q := fun f => LayoutPath f.1) h hd hkv

theorem setFields_id : ∀ {kvs : List (String × Subtree)} {d d' : Doc},
    setFields kvs d = .ok d' → d'.id = d.id
  | [], d, d', h => by cases h; rfl
  | (k, v) :: rest, d, d', h => by
      simp only [setFields] at h
      rcases hset : setField (fieldPath k) v d with e | d₁
      · simp [hset, Except.bind] at h
      · rw [hset] at h
        rw [setFields_id h, setField_id hset]

theorem unsetFields_id (ks : List String) (d : Doc) :
    (ks.foldl (fun d k => unsetField (fieldPath k) d) d).id = d.id := by
  induction ks generalizing d with
  | nil => rfl
  | cons k ks ih => exact ih _

/-! ### A map of `$set`s -/

theorem setFields_append (a b : List (String × Subtree)) (d : Doc) :
    setFields (a ++ b) d = (setFields a d).bind (setFields b) := by
  induction a generalizing d with
  | nil => rfl
  | cons kv a ih =>
      obtain ⟨k, v⟩ := kv
      simp only [List.cons_append, setFields]
      cases setField (fieldPath k) v d with
      | error e => rfl
      | ok d₁ => exact ih d₁

theorem setFields_cons_eq_ok {k : String} {v : Subtree} {rest : List (String × Subtree)} {d d' : Doc}
    (h : setFields ((k, v) :: rest) d = .ok d') :
    ∃ d₁, setField (fieldPath k) v d = .ok d₁ ∧ setFields rest d₁ = .ok d' := by
  simp only [setFields] at h
  cases h₁ : setField (fieldPath k) v d with
  | error e => rw [h₁] at h; cases h
  | ok d₁ => rw [h₁] at h; exact ⟨d₁, rfl, h⟩

/-- A field no `$set` of the map reaches reads as before. -/
theorem setFields_get_of_outside : ∀ {kvs : List (String × Subtree)} {d d' : Doc} {q : Path},
    (∀ kv ∈ kvs, ¬ fieldPath kv.1 <+: q) → setFields kvs d = .ok d' → d'.get q = d.get q
  | [], _, _, _, _, h => by cases h; rfl
  | (k, v) :: rest, _, _, _, hq, h => by
      obtain ⟨d₁, h₁, h₂⟩ := setFields_cons_eq_ok h
      rw [setFields_get_of_outside (fun kv hkv => hq kv (List.mem_cons_of_mem _ hkv)) h₂,
        setField_get_of_outside h₁ (hq _ (List.mem_cons_self _ _))]

/-- **A field inside one `$set` of a conflict-free map reads that `$set`'s value.** -/
theorem setFields_get_of_mem : ∀ {kvs : List (String × Subtree)} {d d' : Doc}
    {kv : String × Subtree} (r : Path),
    kvs.Pairwise (fun a b => ¬ Conflicting (fieldPath a.1) (fieldPath b.1)) → kv ∈ kvs →
    setFields kvs d = .ok d' → d'.get (fieldPath kv.1 ++ r) = leafAt kv.2 r
  | [], _, _, _, _, _, hkv, _ => absurd hkv (List.not_mem_nil _)
  | (k, v) :: rest, _, _, kv, r, hp, hkv, h => by
      obtain ⟨d₁, h₁, h₂⟩ := setFields_cons_eq_ok h
      rw [List.pairwise_cons] at hp
      rcases List.mem_cons.mp hkv with rfl | hkv
      · rw [setFields_get_of_outside (fun kv' hkv' hpre => hp.1 kv' hkv'
            (conflicting_of_prefixes (List.prefix_append _ _) hpre)) h₂]
        exact setField_get_append h₁
      · exact setFields_get_of_mem r hp.2 hkv h₂

/-- A `$set` of a path of at most three segments succeeds on a layout document: no
leaf lies strictly above it. -/
theorem setField_ok_of_layout {p : Path} (v : Subtree) {d : Doc} (hd : d.Layout)
    (hp : p.length ≤ 3) : ∃ d', setField p v d = .ok d' := by
  have : (d.fields.any fun f => decide (f.1 <+: p ∧ f.1 ≠ p)) = false := by
    rw [List.any_eq_false]
    intro f hf hstrict
    obtain ⟨hpre, hne⟩ := of_decide_eq_true hstrict
    have hlen := (hd f hf).2
    have hle := hpre.length_le
    have : f.1.length ≠ p.length := fun hl => hne (hpre.eq_of_length hl)
    omega
  exact ⟨_, by simp only [setField, this]; rfl⟩

/-- **The `$set`s of a map with short paths succeed on a layout document.** -/
theorem setFields_ok_of_layout : ∀ {kvs : List (String × Subtree)} {d : Doc}, d.Layout →
    (∀ kv ∈ kvs, WritesInLayout (fieldPath kv.1) kv.2 ∧ (fieldPath kv.1).length ≤ 3) →
    ∃ d', setFields kvs d = .ok d'
  | [], d, _, _ => ⟨d, rfl⟩
  | (k, v) :: rest, d, hd, hkv => by
      have hk := hkv (k, v) (List.mem_cons_self _ _)
      obtain ⟨d₁, h₁⟩ := setField_ok_of_layout v hd hk.2
      obtain ⟨d', h'⟩ := setFields_ok_of_layout (setField_layout h₁ hd hk.1)
        fun kv hkv' => hkv kv (List.mem_cons_of_mem _ hkv')
      exact ⟨d', by simp only [setFields, h₁]; exact h'⟩

/-! ### The server's check -/

theorem firstConflict_eq_none {ks : List String} :
    firstConflict ks = none ↔ ks.Pairwise fun k k' => ¬ Conflicting (fieldPath k) (fieldPath k') := by
  induction ks with
  | nil => simp [firstConflict]
  | cons k ks ih =>
      rw [firstConflict, List.pairwise_cons, ← ih]
      by_cases h : ks.any fun k' => decide (Conflicting (fieldPath k) (fieldPath k'))
      · simp only [h, ite_true, reduceCtorEq, false_iff, not_and]
        simp only [List.any_eq_true, decide_eq_true_eq] at h
        obtain ⟨k', hk', hc⟩ := h
        exact fun hall => absurd hc (hall k' hk')
      · simp only [h, Bool.false_eq_true, ite_false, iff_and_self]
        simp only [List.any_eq_true, decide_eq_true_eq, not_exists, not_and] at h
        exact fun _ => h

/-- **When the server accepts an update document**: no name has an empty segment
and no two names conflict. -/
theorem Update.check_eq_ok {u : Update} :
    u.check = .ok () ↔ (∀ k ∈ u.fields, "" ∉ fieldPath k) ∧
      u.fields.Pairwise fun k k' => ¬ Conflicting (fieldPath k) (fieldPath k') := by
  rw [← firstConflict_eq_none]
  unfold Update.check
  cases hf : u.fields.find? fun k => (fieldPath k).contains "" with
  | some k =>
      obtain ⟨hk, hmem⟩ := List.find?_some hf, List.mem_of_find?_eq_some hf
      simp only [reduceCtorEq, false_iff, not_and]
      exact fun hall => absurd (by simpa using hk) (hall k hmem)
  | none =>
      simp only [List.find?_eq_none] at hf
      have hall : ∀ k ∈ u.fields, "" ∉ fieldPath k := fun k hk => by simpa using hf k hk
      cases firstConflict u.fields
      · exact ⟨fun _ => ⟨hall, rfl⟩, fun _ => rfl⟩
      · simp

/-- The writes of an update are its `$set`s, and on insert its `$setOnInsert`s. -/
theorem Update.mem_writes {u : Update} {insert : Bool} {kv : String × Subtree} :
    kv ∈ u.writes insert ↔ kv ∈ u.set ∨ insert = true ∧ kv ∈ u.setOnInsert := by
  rw [Update.writes, (List.perm_insertionSort _ _).mem_iff]
  cases insert <;> simp

theorem Update.writes_subset {u : Update} {insert : Bool} {kv : String × Subtree}
    (h : kv ∈ u.writes insert) : kv ∈ u.set ++ u.setOnInsert :=
  List.mem_append.mpr ((Update.mem_writes.mp h).imp id And.right)

/-- **No two writes of an update the server accepts conflict**, in the order the
server applies them as in any other. -/
theorem Update.writes_pairwise {u : Update} (hc : u.check = .ok ()) (insert : Bool) :
    (u.writes insert).Pairwise fun a b => ¬ Conflicting (fieldPath a.1) (fieldPath b.1) := by
  have hall := (Update.check_eq_ok.mp hc).2
  rw [Update.fields, List.pairwise_append, ← List.map_append, List.pairwise_map] at hall
  have hsub : List.Sublist (if insert then u.set ++ u.setOnInsert else u.set) (u.set ++ u.setOnInsert) := by
    split <;> simp
  exact (List.Pairwise.sublist hsub hall.1).perm (List.perm_insertionSort _ _).symm
    fun h hc => h (Or.symm hc)

/-- The inversion of `Update.apply`: a successful update passed the server's check,
then ran its writes in the server's order, and its `$unset`s. -/
theorem Update.apply_eq_ok {u : Update} {insert : Bool} {d d' : Doc}
    (h : u.apply insert d = .ok d') :
    u.check = .ok () ∧ ∃ d₁, setFields (u.writes insert) d = .ok d₁ ∧
      d' = u.unset.foldl (fun d k => unsetField (fieldPath k) d) d₁ := by
  simp only [Update.apply, bind, Except.bind, pure, Except.pure] at h
  rcases hc : u.check with e | ⟨⟩ <;> rw [hc] at h
  · cases h
  rcases h₁ : setFields (u.writes insert) d with e | d₁ <;> rw [h₁] at h
  · cases h
  exact ⟨rfl, d₁, rfl, (Except.ok.inj h).symm⟩

/-- **An update keeps a property of every leaf** when each leaf its `$set`s and
`$setOnInsert`s write has it. -/
theorem Update.apply_forall {Q : Path × Leaf → Prop} {u : Update} {insert : Bool} {d d' : Doc}
    (h : u.apply insert d = .ok d')
    (hu : ∀ kv ∈ u.set ++ u.setOnInsert, ∀ x ∈ kv.2, Q (fieldPath kv.1 ++ x.1, x.2))
    (hd : ∀ f ∈ d.fields, Q f) : ∀ f ∈ d'.fields, Q f := by
  obtain ⟨-, d₁, h₁, rfl⟩ := Update.apply_eq_ok h
  exact unsetFields_forall _ (setFields_forall h₁ hd fun kv hkv => hu kv (Update.writes_subset hkv))

/-- **An update whose writes keep to the store's layout keeps a document in it.** -/
theorem Update.apply_layout {u : Update} {insert : Bool} {d d' : Doc}
    (h : u.apply insert d = .ok d') (hu : u.Shaped) (hd : d.Layout) : d'.Layout :=
  Update.apply_forall (Q := fun f => LayoutPath f.1) h hu hd

/-- An update never changes a document's `_id`. -/
theorem Update.apply_id {u : Update} {insert : Bool} {d d' : Doc}
    (h : u.apply insert d = .ok d') : d'.id = d.id := by
  obtain ⟨-, d₁, h₁, rfl⟩ := Update.apply_eq_ok h
  rw [unsetFields_id, setFields_id h₁]

/-- **An update the server accepts succeeds on a layout document** when it sets no
path of more than three segments: no leaf of the document lies above a path it sets. -/
theorem Update.apply_ok_of_layout {u : Update} (insert : Bool) {d : Doc} (hc : u.check = .ok ())
    (hu : u.Shaped) (hlen : ∀ kv ∈ u.set ++ u.setOnInsert, (fieldPath kv.1).length ≤ 3)
    (hd : d.Layout) : ∃ d', u.apply insert d = .ok d' := by
  obtain ⟨d₁, h₁⟩ : ∃ d₁, setFields (u.writes insert) d = .ok d₁ := setFields_ok_of_layout hd fun kv hkv =>
    ⟨hu kv (Update.writes_subset hkv), hlen kv (Update.writes_subset hkv)⟩
  exact ⟨_, by simp only [Update.apply, bind, Except.bind, pure, Except.pure, hc, h₁]; rfl⟩

/-! ### Reading a document after an update -/

/-- **What the server's check guarantees**: no two names of an update conflict,
within an operator or across two. -/
theorem Update.check_pairwise {u : Update} (h : u.check = .ok ()) :
    let R := fun k k' => ¬ Conflicting (fieldPath k) (fieldPath k')
    (u.set.map (·.1)).Pairwise R ∧
      (∀ k ∈ u.set.map (·.1), ∀ k' ∈ u.setOnInsert.map (·.1), R k k') ∧
      ∀ k ∈ u.set.map (·.1) ++ u.setOnInsert.map (·.1), ∀ k' ∈ u.unset, R k k' := by
  have := (Update.check_eq_ok.mp h).2
  rw [Update.fields, List.pairwise_append, List.pairwise_append] at this
  exact ⟨this.1.1, this.1.2.2, this.2.2⟩

theorem unsetFields_get_of_outside {q : Path} :
    ∀ {ks : List String} {d : Doc}, (∀ k ∈ ks, ¬ fieldPath k <+: q) →
    (ks.foldl (fun d k => unsetField (fieldPath k) d) d).get q = d.get q
  | [], _, _ => rfl
  | k :: ks, d, hq => by
      rw [List.foldl_cons, unsetFields_get_of_outside fun k' hk' => hq k' (List.mem_cons_of_mem _ hk'),
        unsetField_get_of_outside d (hq k (List.mem_cons_self _ _))]

/-- A name the update's check accepts next to `k` is not a prefix of a path inside `k`. -/
theorem not_prefix_of_not_conflicting {k k' : String} (r : Path)
    (h : ¬ Conflicting (fieldPath k) (fieldPath k')) : ¬ fieldPath k' <+: fieldPath k ++ r :=
  fun hpre => h (conflicting_of_prefixes (List.prefix_append _ _) hpre)

/-- **A field inside a write of an update reads that write's value** afterwards. -/
theorem Update.apply_get_of_writes {u : Update} {insert : Bool} {d d' : Doc}
    (h : u.apply insert d = .ok d') {kv : String × Subtree} (hkv : kv ∈ u.writes insert) (r : Path) :
    d'.get (fieldPath kv.1 ++ r) = leafAt kv.2 r := by
  obtain ⟨hc, d₁, h₁, rfl⟩ := Update.apply_eq_ok h
  obtain ⟨-, -, hun⟩ := Update.check_pairwise hc
  have hk : kv.1 ∈ u.set.map (·.1) ++ u.setOnInsert.map (·.1) := by
    rw [← List.map_append]; exact List.mem_map_of_mem _ (Update.writes_subset hkv)
  rw [unsetFields_get_of_outside fun k' hk' => not_prefix_of_not_conflicting r (hun _ hk k' hk')]
  exact setFields_get_of_mem r (Update.writes_pairwise hc insert) hkv h₁

/-- **A field inside a `$set` of an update reads that `$set`'s value** afterwards. -/
theorem Update.apply_get_of_set {u : Update} {insert : Bool} {d d' : Doc}
    (h : u.apply insert d = .ok d') {kv : String × Subtree} (hkv : kv ∈ u.set) (r : Path) :
    d'.get (fieldPath kv.1 ++ r) = leafAt kv.2 r :=
  Update.apply_get_of_writes h (Update.mem_writes.mpr (.inl hkv)) r

/-- **On insert, a field inside a `$setOnInsert` reads its value** afterwards. -/
theorem Update.apply_get_of_setOnInsert {u : Update} {d d' : Doc} (h : u.apply true d = .ok d')
    {kv : String × Subtree} (hkv : kv ∈ u.setOnInsert) (r : Path) :
    d'.get (fieldPath kv.1 ++ r) = leafAt kv.2 r :=
  Update.apply_get_of_writes h (Update.mem_writes.mpr (.inr ⟨rfl, hkv⟩)) r

/-- **A field no write of an update reaches reads as before.** -/
theorem Update.apply_get_of_outside {u : Update} {insert : Bool} {d d' : Doc}
    (h : u.apply insert d = .ok d') {q : Path} (hset : ∀ kv ∈ u.set, ¬ fieldPath kv.1 <+: q)
    (hins : insert → ∀ kv ∈ u.setOnInsert, ¬ fieldPath kv.1 <+: q)
    (hun : ∀ k ∈ u.unset, ¬ fieldPath k <+: q) : d'.get q = d.get q := by
  obtain ⟨-, d₁, h₁, rfl⟩ := Update.apply_eq_ok h
  rw [unsetFields_get_of_outside hun]
  exact setFields_get_of_outside (fun kv hkv =>
    (Update.mem_writes.mp hkv).elim (hset kv) fun h => hins h.1 kv h.2) h₁

end DeviceInventory
