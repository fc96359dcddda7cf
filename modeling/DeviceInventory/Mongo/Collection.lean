import DeviceInventory.Mongo.Update
import Mathlib.Data.List.Nodup
import Mathlib.Data.List.Dedup

/-!
# The devices collection and the driver's commands

## Main definitions

* `Collection` — the documents of the collection, in natural order, together
  with the two facts every state of it has: the `_id`s are unique (the server's
  index on `_id`), and every document has the store's layout.
* `Backend` — the server as the store sees it: for each driver call, whether it
  fails and with which error, and which documents a failing write wrote all the
  same.  `Backend.healthy` fails no call.
* `runUpsert`, `runUpdateOne`, `runUpdateMany`, `runDeleteOne` — what the server
  does with a write command it carries out.
* `upsertOne`, `updateOne`, `updateMany`, `deleteOne`, `findOne`, `distinct`,
  `countDocuments` — the driver's commands over a collection.

## Design notes

The write commands take a proof that the update keeps to the store's layout
(`Update.Shaped`): the collection only holds layout documents, and each store
operation proves its own update shaped.  A write whose call fails reports the
backend's error, and may have taken effect all the same, document by document: a
lost reply after the write, an `UpdateMany` interrupted after some of its
documents (`Backend.applied`).  Each document is written whole or not at all, as
the server writes one document atomically.  `UpdateMany` is not atomic across
documents: the first document the update fails on stops it, and the documents
before it stay written (`updateEach`).
-/

namespace DeviceInventory

/-- **The devices collection**: its documents in natural order, with unique `_id`s
and the store's layout. -/
structure Collection where
  docs : List Doc
  nodup : (docs.map Doc.id).Nodup
  layout : ∀ d ∈ docs, d.Layout

namespace Collection

/-- The empty collection. -/
def empty : Collection := ⟨[], List.nodup_nil, fun _ h => absurd h (List.not_mem_nil _)⟩

/-- The document with `_id` `id`, if there is one. -/
def find? (c : Collection) (id : DeviceID) : Option Doc := c.docs.find? fun d => decide (d.id = id)

/-- The collection with the documents bearing `d'`'s `_id` replaced by `d'`. -/
def put (c : Collection) (d' : Doc) (hl : d'.Layout) : Collection where
  docs := c.docs.map fun e => if e.id = d'.id then d' else e
  nodup := by
    have : (c.docs.map fun e => if e.id = d'.id then d' else e).map Doc.id = c.docs.map Doc.id := by
      simp only [List.map_map]
      exact List.map_congr_left fun e _ => by by_cases h : e.id = d'.id <;> simp [h]
    rw [this]; exact c.nodup
  layout x hx := by
    obtain ⟨e, he, rfl⟩ := List.mem_map.mp hx
    by_cases h : e.id = d'.id
    · simpa [h] using hl
    · simpa [h] using c.layout e he

/-- The collection with `d'`, whose `_id` is new, appended. -/
def insert (c : Collection) (d' : Doc) (hl : d'.Layout) (hnew : d'.id ∉ c.docs.map Doc.id) :
    Collection where
  docs := c.docs ++ [d']
  nodup := by
    rw [List.map_append, List.nodup_append]
    refine ⟨c.nodup, List.nodup_singleton _, fun a ha hb => ?_⟩
    rw [List.map_singleton, List.mem_singleton] at hb
    exact hnew (hb ▸ ha)
  layout e he := by
    rcases List.mem_append.mp he with he | he
    · exact c.layout e he
    · rw [List.mem_singleton.mp he]; exact hl

/-- The collection without the document bearing `_id` `id`. -/
def remove (c : Collection) (id : DeviceID) : Collection where
  docs := c.docs.filter fun e => e.id ≠ id
  nodup := c.nodup.sublist ((List.filter_sublist _).map _)
  layout e he := c.layout e (List.mem_filter.mp he).1

theorem find?_eq_some_iff {c : Collection} {id : DeviceID} {d : Doc} :
    c.find? id = some d ↔ d ∈ c.docs ∧ d.id = id := by
  constructor
  · intro h
    exact ⟨List.mem_of_find?_eq_some h, by simpa using List.find?_some h⟩
  · rintro ⟨hd, rfl⟩
    rcases h : c.find? d.id with _ | e
    · simp only [find?, List.find?_eq_none] at h
      exact absurd (h d hd) (by simp)
    · have he := List.mem_of_find?_eq_some h
      have hid : e.id = d.id := by simpa using List.find?_some h
      exact congrArg some (List.inj_on_of_nodup_map c.nodup he hd hid)

theorem find?_eq_none_iff {c : Collection} {id : DeviceID} :
    c.find? id = none ↔ id ∉ c.docs.map Doc.id := by
  simp [find?]

/-- The document an upsert on `id` starts from, the stored one or the bare `_id`,
has the store's layout. -/
theorem layout_find?_getD (c : Collection) (id : DeviceID) : ((c.find? id).getD ⟨id, []⟩).Layout := by
  cases h : c.find? id with
  | none => exact fun _ h => absurd h (List.not_mem_nil _)
  | some d => exact c.layout d (find?_eq_some_iff.mp h).1

/-- After `put`, the `_id` of the new document finds it; every other `_id` finds
what it found before. -/
theorem find?_put {c : Collection} {d' : Doc} {hl : d'.Layout} (hin : (c.find? d'.id).isSome)
    (id : DeviceID) : (c.put d' hl).find? id = if id = d'.id then some d' else c.find? id := by
  have hp : ∀ e : Doc, (decide ((if e.id = d'.id then d' else e).id = id)) = decide (e.id = id) :=
    fun e => by by_cases h : e.id = d'.id <;> by_cases h' : e.id = id <;> simp_all
  simp only [find?, put, List.find?_map, Function.comp_def, hp]
  split_ifs with h
  · subst h
    obtain ⟨e, he⟩ := Option.isSome_iff_exists.mp hin
    simp only [find?] at he
    have hid : e.id = d'.id := by simpa using List.find?_some he
    simp [he, hid]
  · cases he : c.docs.find? (fun e => decide (e.id = id)) with
    | none => rfl
    | some e =>
        have hid : e.id = id := by simpa using List.find?_some he
        have : e.id ≠ d'.id := fun h' => h (hid.symm.trans h')
        simp [this]

/-- After `insert`, the new `_id` finds the new document; every other `_id` finds
what it found before. -/
theorem find?_insert {c : Collection} {d' : Doc} {hl : d'.Layout}
    {hnew : d'.id ∉ c.docs.map Doc.id} (id : DeviceID) :
    (c.insert d' hl hnew).find? id = if id = d'.id then some d' else c.find? id := by
  have hnone : c.find? d'.id = none := find?_eq_none_iff.mpr hnew
  simp only [find?, insert, List.find?_append]
  split_ifs with h
  · subst h
    simp only [find?] at hnone
    simp [hnone]
  · cases c.docs.find? (fun e => decide (e.id = id)) <;> simp [Ne.symm h]

end Collection

/-- The filter `{_id: id}` finds the document `find?` finds. -/
theorem find?_idEq (c : Collection) (id : DeviceID) :
    c.docs.find? ((Query.idEq id).matches ·) = c.find? id := by
  simp [Collection.find?, Query.matches]

/-! ### The backend -/

/-- The driver calls the store makes. -/
inductive Call where
  | aggregate | cursorNext | cursorDecode | cursorAll | find | findOne | singleDecode
  | countDocuments | distinct | updateOne | updateMany | deleteOne
deriving DecidableEq, Repr

/-- **The server as the store sees it**: for each driver call, whether it fails,
and with which error; and for a write call that fails, whether it wrote the
document of an `_id` all the same. -/
structure Backend where
  fails : Call → Option MongoError
  applied : Call → DeviceID → Bool

/-- The backend that fails no call. -/
def Backend.healthy : Backend := ⟨fun _ => none, fun _ _ => false⟩

@[simp] theorem Backend.healthy_fails (call : Call) : Backend.healthy.fails call = none := rfl

/-- The backend whose one call `call` fails, with the error `e`, before writing
anything. -/
def Backend.failing (call : Call) (e : MongoError) : Backend :=
  ⟨fun c => if c = call then some e else none, fun _ _ => false⟩

/-- The backend whose one call `call` fails, with the error `e`, after writing the
documents of the `_id`s `ids`. -/
def Backend.interrupted (call : Call) (e : MongoError) (ids : List DeviceID) : Backend :=
  ⟨fun c => if c = call then some e else none, fun c id => decide (c = call ∧ id ∈ ids)⟩

/-- **Whether the call `call` wrote the document of `id`**, when that document is
one the call writes: always when the call does not fail, and when it fails, if
it got that far. -/
def Backend.wrote (net : Backend) (call : Call) (id : DeviceID) : Bool :=
  (net.fails call).isNone || net.applied call id

@[simp] theorem Backend.healthy_wrote (call : Call) (id : DeviceID) : Backend.healthy.wrote call id = true :=
  rfl

theorem Backend.wrote_of_fails {net : Backend} {call : Call} {e : MongoError}
    (h : net.fails call = some e) (id : DeviceID) : net.wrote call id = net.applied call id := by
  simp [Backend.wrote, h]

theorem Backend.wrote_of_delivered {net : Backend} {call : Call} (h : net.fails call = none)
    (id : DeviceID) : net.wrote call id = true := by
  simp [Backend.wrote, h]

/-- `mongo.UpdateResult`. -/
structure UpdateResult where
  matchedCount : Nat
  modifiedCount : Nat
  upsertedCount : Nat
deriving DecidableEq, Repr

/-- The count of the stored document `d` that the update `u` modified. -/
def modifiedOne (u : Update) (d : Doc) : Nat := if u.modifies d then 1 else 0

/-! ### Writes -/

/-- **What the server does with `UpdateOne(filter {_id: id}, u)` with upsert**: the
update on the document with that `_id`, or, when there is none, the insert of a
new document carrying the `_id`, the `$set`s and the `$setOnInsert`s. -/
def runUpsert (c : Collection) (id : DeviceID) (u : Update) (hu : u.Shaped) :
    Except MongoError UpdateResult × Collection :=
  match hf : c.find? id with
  | some d =>
    match h : u.apply false d with
    | .error e => (.error e, c)
    | .ok d' => (.ok ⟨1, modifiedOne u d, 0⟩,
        c.put d' (Update.apply_layout h hu (c.layout d (Collection.find?_eq_some_iff.mp hf).1)))
  | none =>
    match h : u.apply true ⟨id, []⟩ with
    | .error e => (.error e, c)
    | .ok d' => (.ok ⟨0, 0, 1⟩, c.insert d' (Update.apply_layout h hu (fun _ h => by cases h))
        (by rw [Update.apply_id h]; exact Collection.find?_eq_none_iff.mp hf))

/-- **`UpdateOne(filter {_id: id}, u)` with upsert**: what the server does; when the
call fails, the backend's error, the write made all the same if it got that far. -/
def upsertOne (net : Backend) (c : Collection) (id : DeviceID) (u : Update) (hu : u.Shaped) :
    Except MongoError UpdateResult × Collection :=
  match net.fails .updateOne with
  | some e => (.error e, if net.applied .updateOne id then (runUpsert c id u hu).2 else c)
  | none => runUpsert c id u hu

/-- **What an upsert the server carries out does**: the document with the `_id`
becomes the updated one (on insert, the new one built from the bare `_id`), and
every other `_id` finds what it found before. -/
theorem upsertOne_of_apply {net : Backend} (hnet : net.fails .updateOne = none) {c : Collection}
    {id : DeviceID} {u : Update} (hu : u.Shaped) {d' : Doc}
    (h : u.apply (c.find? id).isNone ((c.find? id).getD ⟨id, []⟩) = .ok d') :
    (∃ r, (upsertOne net c id u hu).1 = .ok r) ∧ (upsertOne net c id u hu).2.find? id = some d' ∧
      ∀ id', id' ≠ id → (upsertOne net c id u hu).2.find? id' = c.find? id' := by
  unfold upsertOne runUpsert
  simp only [hnet]
  split
  · rename_i d hf
    have hid : d.id = id := (Collection.find?_eq_some_iff.mp hf).2
    simp only [hf, Option.isNone_some, Option.getD_some] at h
    split
    · rename_i e he; rw [he] at h; cases h
    · rename_i d₁ h₁
      rw [h₁] at h; cases h
      have hin : (c.find? d'.id).isSome := by rw [Update.apply_id h₁, hid, hf]; rfl
      refine ⟨⟨_, rfl⟩, by simp [Collection.find?_put hin, Update.apply_id h₁, hid],
        fun id' hne => by simp [Collection.find?_put hin, Update.apply_id h₁, hid, hne]⟩
  · rename_i hf
    simp only [hf, Option.isNone_none, Option.getD_none] at h
    split
    · rename_i e he; rw [he] at h; cases h
    · rename_i d₁ h₁
      rw [h₁] at h; cases h
      refine ⟨⟨_, rfl⟩, by simp [Collection.find?_insert, Update.apply_id h₁],
        fun id' hne => by simp [Collection.find?_insert, Update.apply_id h₁, hne]⟩

/-- **A failed upsert** reports the backend's error, and made the write if it got
that far. -/
theorem upsertOne_of_fails {net : Backend} {e : MongoError} (h : net.fails .updateOne = some e)
    (c : Collection) (id : DeviceID) (u : Update) (hu : u.Shaped) :
    upsertOne net c id u hu =
      (.error e, if net.applied .updateOne id then (runUpsert c id u hu).2 else c) := by
  unfold upsertOne; rw [h]

/-- An upsert the server carries out is the upsert of a server that does not fail. -/
theorem upsertOne_of_delivered {net : Backend} (h : net.fails .updateOne = none) :
    upsertOne net = upsertOne .healthy := by
  funext c id u hu; unfold upsertOne; rw [h]; rfl

@[simp] theorem upsertOne_healthy_eq_run (c : Collection) (id : DeviceID) (u : Update) (hu : u.Shaped) :
    upsertOne .healthy c id u hu = runUpsert c id u hu := rfl

/-- **What the server does with `UpdateOne(filter, u)`**: the update on the first
document the filter passes. -/
def runUpdateOne (c : Collection) (filter : Query) (u : Update) (hu : u.Shaped) :
    Except MongoError UpdateResult × Collection :=
  match filter.check with
  | .error e => (.error e, c)
  | .ok () =>
    match hf : c.docs.find? (filter.matches ·) with
    | none =>
      match u.check with
      | .error e => (.error e, c)
      | .ok () => (.ok ⟨0, 0, 0⟩, c)
    | some d =>
      match h : u.apply false d with
      | .error e => (.error e, c)
      | .ok d' => (.ok ⟨1, modifiedOne u d, 0⟩,
          c.put d' (Update.apply_layout h hu (c.layout d (List.mem_of_find?_eq_some hf))))

/-- An `UpdateOne` whose filter passes no document changes nothing. -/
theorem runUpdateOne_of_none {c : Collection} {f : Query} (h : c.docs.find? (f.matches ·) = none)
    (u : Update) (hu : u.Shaped) : (runUpdateOne c f u hu).2 = c := by
  unfold runUpdateOne
  split
  · rfl
  · split
    · split <;> rfl
    · rename_i d hd; rw [h] at hd; cases hd

/-- **`UpdateOne(filter, u)`**: what the server does; when the call fails, the
backend's error, the write made all the same if it got that far. -/
def updateOne (net : Backend) (c : Collection) (filter : Query) (u : Update) (hu : u.Shaped) :
    Except MongoError UpdateResult × Collection :=
  match net.fails .updateOne with
  | some e => (.error e, if (c.docs.find? (filter.matches ·)).any (net.applied .updateOne ·.id)
      then (runUpdateOne c filter u hu).2 else c)
  | none => runUpdateOne c filter u hu

theorem updateOne_of_fails {net : Backend} {e : MongoError} (h : net.fails .updateOne = some e)
    (c : Collection) (f : Query) (u : Update) (hu : u.Shaped) :
    updateOne net c f u hu = (.error e, if (c.docs.find? (f.matches ·)).any (net.applied .updateOne ·.id)
      then (runUpdateOne c f u hu).2 else c) := by
  unfold updateOne; rw [h]

theorem updateOne_of_delivered {net : Backend} (h : net.fails .updateOne = none) :
    updateOne net = updateOne .healthy := by
  funext c f u hu; unfold updateOne; rw [h]; rfl

@[simp] theorem updateOne_healthy_eq_run (c : Collection) (f : Query) (u : Update) (hu : u.Shaped) :
    updateOne .healthy c f u hu = runUpdateOne c f u hu := rfl

/-- What `UpdateMany` does to the documents, in natural order: the matched ones
get the update, until one of them fails it. -/
structure EachResult where
  docs : List Doc
  matched : Nat
  modified : Nat
  error : Option MongoError

/-- The run of `UpdateMany` over a list of documents, writing those `sel` picks. -/
def updateEach (sel : Doc → Bool) (u : Update) : List Doc → EachResult
  | [] => ⟨[], 0, 0, none⟩
  | d :: ds =>
    if sel d then
      match u.apply false d with
      | .error e => ⟨d :: ds, 0, 0, some e⟩
      | .ok d' =>
        let r := updateEach sel u ds
        ⟨d' :: r.docs, r.matched + 1, r.modified + modifiedOne u d, r.error⟩
    else
      let r := updateEach sel u ds
      ⟨d :: r.docs, r.matched, r.modified, r.error⟩

theorem updateEach_ids (sel : Doc → Bool) (u : Update) (ds : List Doc) :
    (updateEach sel u ds).docs.map Doc.id = ds.map Doc.id := by
  induction ds with
  | nil => rfl
  | cons d ds ih =>
      simp only [updateEach]
      split
      · split
        · rfl
        · rename_i d' h
          simp [ih, Update.apply_id h]
      · simp [ih]

theorem updateEach_layout {sel : Doc → Bool} {u : Update} (hu : u.Shaped) {ds : List Doc}
    (hl : ∀ d ∈ ds, d.Layout) : ∀ d ∈ (updateEach sel u ds).docs, d.Layout := by
  induction ds with
  | nil => simp [updateEach]
  | cons d ds ih =>
      have ih := ih fun e he => hl e (List.mem_cons_of_mem d he)
      have hd := hl d (List.mem_cons_self d ds)
      simp only [updateEach]
      split
      · split
        · exact hl
        · rename_i d' h
          simpa [Update.apply_layout h hu hd] using ih
      · simpa [hd] using ih

/-- An `UpdateMany` run that picks no document leaves every document as it was. -/
theorem updateEach_of_none {sel : Doc → Bool} (u : Update) :
    ∀ {ds : List Doc}, (∀ d ∈ ds, sel d = false) → (updateEach sel u ds).docs = ds
  | [], _ => rfl
  | d :: ds, h => by
      simp only [updateEach, h d (List.mem_cons_self _ _), Bool.false_eq_true, if_false,
        updateEach_of_none u fun d' hd' => h d' (List.mem_cons_of_mem _ hd')]

/-- **What the server does with `UpdateMany(filter, u)`**, writing the documents
`sel` picks: on a call that is not interrupted, every document the filter passes. -/
def runUpdateMany (sel : Doc → Bool) (c : Collection) (filter : Query) (u : Update) (hu : u.Shaped) :
    Except MongoError UpdateResult × Collection :=
  match filter.check, u.check with
  | .error e, _ | .ok (), .error e => (.error e, c)
  | .ok (), .ok () =>
    let r := updateEach sel u c.docs
    (match r.error with
      | some e => .error e
      | none => .ok ⟨r.matched, r.modified, 0⟩,
     ⟨r.docs, by rw [updateEach_ids]; exact c.nodup, updateEach_layout hu c.layout⟩)

/-- Two runs of `UpdateMany` that pick the same documents, with filters the server
accepts alike, write alike. -/
theorem runUpdateMany_congr {sel sel' : Doc → Bool} (hsel : ∀ d, sel d = sel' d) {f f' : Query}
    (hf : f.check = f'.check) (c : Collection) (u : Update) (hu : u.Shaped) :
    (runUpdateMany sel c f u hu).2 = (runUpdateMany sel' c f' u hu).2 := by
  obtain rfl : sel = sel' := funext hsel
  unfold runUpdateMany
  rw [hf]

/-- A run of `UpdateMany` that picks no document changes nothing. -/
theorem runUpdateMany_of_none {sel : Doc → Bool} {c : Collection} (h : ∀ d ∈ c.docs, sel d = false)
    (f : Query) (u : Update) (hu : u.Shaped) : (runUpdateMany sel c f u hu).2 = c := by
  obtain ⟨docs, nodup, layout⟩ := c
  unfold runUpdateMany
  split
  · rfl
  · rfl
  · simp only [Collection.mk.injEq]
    exact updateEach_of_none u h

/-- **`UpdateMany(filter, u)`**: what the server does; when the call fails, the
backend's error, and the update made on the documents it got to. -/
def updateMany (net : Backend) (c : Collection) (filter : Query) (u : Update) (hu : u.Shaped) :
    Except MongoError UpdateResult × Collection :=
  match net.fails .updateMany with
  | some e => (.error e,
      (runUpdateMany (fun d => filter.matches d && net.applied .updateMany d.id) c filter u hu).2)
  | none => runUpdateMany (filter.matches ·) c filter u hu

theorem updateMany_of_fails {net : Backend} {e : MongoError} (h : net.fails .updateMany = some e)
    (c : Collection) (f : Query) (u : Update) (hu : u.Shaped) :
    updateMany net c f u hu =
      (.error e, (runUpdateMany (fun d => f.matches d && net.applied .updateMany d.id) c f u hu).2) := by
  unfold updateMany; rw [h]

theorem updateMany_of_delivered {net : Backend} (h : net.fails .updateMany = none) :
    updateMany net = updateMany .healthy := by
  funext c f u hu; unfold updateMany; rw [h]; rfl

@[simp] theorem updateMany_healthy_eq_run (c : Collection) (f : Query) (u : Update) (hu : u.Shaped) :
    updateMany .healthy c f u hu = runUpdateMany (f.matches ·) c f u hu := rfl

/-- **What the server does with `DeleteOne(filter {_id: id})`**: the deleted count
and the collection after. -/
def runDeleteOne (c : Collection) (id : DeviceID) : Except MongoError Nat × Collection :=
  match c.find? id with
  | none => (.ok 0, c)
  | some _ => (.ok 1, c.remove id)

/-- **`DeleteOne(filter {_id: id})`**: what the server does; when the call fails,
the backend's error, the document deleted all the same if it got that far. -/
def deleteOne (net : Backend) (c : Collection) (id : DeviceID) : Except MongoError Nat × Collection :=
  match net.fails .deleteOne with
  | some e => (.error e, if net.applied .deleteOne id then (runDeleteOne c id).2 else c)
  | none => runDeleteOne c id

theorem deleteOne_of_fails {net : Backend} {e : MongoError} (h : net.fails .deleteOne = some e)
    (c : Collection) (id : DeviceID) :
    deleteOne net c id = (.error e, if net.applied .deleteOne id then (runDeleteOne c id).2 else c) := by
  unfold deleteOne; rw [h]

theorem deleteOne_of_delivered {net : Backend} (h : net.fails .deleteOne = none) :
    deleteOne net = deleteOne .healthy := by
  funext c id; unfold deleteOne; rw [h]; rfl

@[simp] theorem deleteOne_healthy_eq_run (c : Collection) (id : DeviceID) :
    deleteOne .healthy c id = runDeleteOne c id := rfl

/-! ### Reads -/

/-- **`FindOne(filter)`**: the first document the filter passes, or
`mongo.ErrNoDocuments`; the error surfaces when the result is decoded. -/
def findOne (net : Backend) (c : Collection) (filter : Query) : Except MongoError Doc :=
  match net.fails .findOne, filter.check with
  | some e, _ | none, .error e => .error e
  | none, .ok () =>
    match c.docs.find? (filter.matches ·) with
    | some d => .ok d
    | none => .error .noDocuments

/-- `SingleResult.Decode`: the result of `FindOne`, unless the decoding fails. -/
def decodeOne (net : Backend) (r : Except MongoError Doc) : Except MongoError Doc :=
  match net.fails .singleDecode with
  | some e => .error e
  | none => r

/-- A value `Distinct` reports: a scalar, or an embedded document. -/
inductive DistinctValue where
  | scalar (v : Scalar)
  | object
deriving DecidableEq, Repr

/-- The values a document contributes to `Distinct` on `p`: an array contributes its
elements. -/
def distinctValues (d : Doc) (p : Path) : List DistinctValue :=
  match d.get p with
  | some (.scalar v) => [.scalar v]
  | some (.array vs) => vs.map .scalar
  | none => if d.has p then [.object] else []

/-- **`Distinct(field, filter)`**: the different values of the field over the
documents the filter passes. -/
def distinct (net : Backend) (c : Collection) (field : String) (filter : Query) :
    Except MongoError (List DistinctValue) :=
  match net.fails .distinct, filter.check with
  | some e, _ | none, .error e => .error e
  | none, .ok () => .ok ((select c.docs filter).flatMap (distinctValues · (fieldPath field))).dedup

/-- `CountDocuments(filter)`. -/
def countDocuments (net : Backend) (c : Collection) (filter : Query) : Except MongoError Nat :=
  match net.fails .countDocuments, filter.check with
  | some e, _ | none, .error e => .error e
  | none, .ok () => .ok (select c.docs filter).length

theorem countDocuments_healthy {c : Collection} {filter : Query} (hf : filter.check = .ok ()) :
    countDocuments .healthy c filter = .ok (select c.docs filter).length := by
  simp only [countDocuments, Backend.healthy_fails, hf]

/-! ### Results read element by element -/

/-- A `mapM` in `Except` whose every call succeeds. -/
theorem mapM_eq_ok {α β ε : Type} {f : α → Except ε β} {g : α → β} :
    ∀ {l : List α}, (∀ a ∈ l, f a = .ok (g a)) → l.mapM f = .ok (l.map g)
  | [], _ => rfl
  | a :: l, h => by
      rw [List.mapM_cons, h a (List.mem_cons_self _ _),
        mapM_eq_ok fun b hb => h b (List.mem_cons_of_mem _ hb)]
      rfl

/-- **A `mapM` in `Except` over values the call maps back**: a type assertion on
every element of a result whose elements all have the asserted type. -/
theorem mapM_eq_ok_of_inverse {α β ε : Type} {f : α → Except ε β} {g : β → α}
    (hfg : ∀ b, f (g b) = .ok b) :
    ∀ {vs : List α}, (∀ v ∈ vs, ∃ b, v = g b) → ∃ bs, vs.mapM f = .ok bs ∧ vs = bs.map g
  | [], _ => ⟨[], rfl, rfl⟩
  | v :: vs, h => by
      obtain ⟨b, rfl⟩ := h v (List.mem_cons_self _ _)
      obtain ⟨bs, hbs, rfl⟩ := mapM_eq_ok_of_inverse hfg fun w hw => h w (List.mem_cons_of_mem _ hw)
      exact ⟨b :: bs, by rw [List.mapM_cons, hfg, hbs]; rfl, rfl⟩

end DeviceInventory
