import DeviceInventory.Mongo.Collection

/-!
# What a write does to each document

Every write command the store issues moves the document of an `_id` in one of a
few ways: it leaves it as it was, it replaces it by the update applied to it (when
the filter passes it), or, for an upsert, it inserts the update applied to the
bare `_id`; no write command but `DeleteOne` makes a document vanish.  `Evolves`
says this once, per `_id`; the invariants of the store are then proved about
`Update.apply` alone, and carried to whole commands by `Evolves.forall_docs`.

## Main definitions

* `Moves`, `Evolves` — how a command with a filter and an update moves the
  document of every `_id`.
* `upsertDoc`, `updateOneDoc`, `updateManyDoc`, `deleteOneDoc` — what each write
  command makes of the document of one `_id`.

## Main statements

* `Update.apply_under` — an update leaves every field it does not conflict with
  as it was, down to the order of its leaves.
* `Update.apply_under_of_setOnInsert` — a field an update writes only on insert is
  left alone by that update on every other document.
* `Doc.same_iff` — two documents are `Same` exactly when they read alike at
  every path.
* `Evolves.put` — writing back the update of one stored document the filter
  passes moves that document only.
* `updateOne_evolves`, `updateMany_evolves`, `upsertOne_evolves` — the three
  write commands move each document by their update, or not at all.
* `updateEach_counts` — the counts `UpdateMany` reports when its update succeeds
  on every document it writes: the matches, and those the update modifies.
* `updateMany_healthy`, `updateOne_of_find?_some` — on a store that does not fail,
  the counts and the documents of `UpdateMany` and `UpdateOne`.
* `find?_deleteOne` — `DeleteOne` removes exactly its own document.
* `upsertOne_find?`, `updateOne_idEq_find?`, `updateMany_find?`,
  `deleteOne_find?_eq` — each write command, seen from one `_id`: the document
  after is `upsertDoc`, `updateOneDoc`, `updateManyDoc` or `deleteOneDoc` of the
  document before, and of nothing else.
-/

namespace DeviceInventory

/-! ### Fields an update does not reach -/

theorem setFields_under {q : Path} : ∀ {kvs : List (String × Subtree)} {d d' : Doc},
    (∀ kv ∈ kvs, ¬ Conflicting (fieldPath kv.1) q) → setFields kvs d = .ok d' → d'.under q = d.under q
  | [], _, _, _, h => by cases h; rfl
  | (k, v) :: rest, _, _, hq, h => by
      obtain ⟨d₁, h₁, h₂⟩ := setFields_cons_eq_ok h
      rw [setFields_under (fun kv hkv => hq kv (List.mem_cons_of_mem _ hkv)) h₂,
        setField_under h₁ (hq _ (List.mem_cons_self _ _))]

theorem unsetFields_under {q : Path} : ∀ {ks : List String} {d : Doc},
    (∀ k ∈ ks, ¬ Conflicting (fieldPath k) q) →
    (ks.foldl (fun d k => unsetField (fieldPath k) d) d).under q = d.under q
  | [], _, _ => rfl
  | k :: ks, d, hq => by
      rw [List.foldl_cons, unsetFields_under fun k' hk' => hq k' (List.mem_cons_of_mem _ hk'),
        unsetField_under d (hq k (List.mem_cons_self _ _))]

/-- **An update leaves every field it does not conflict with as it was.** -/
theorem Update.apply_under {u : Update} {insert : Bool} {d d' : Doc} (h : u.apply insert d = .ok d')
    {q : Path} (hset : ∀ kv ∈ u.set, ¬ Conflicting (fieldPath kv.1) q)
    (hins : insert → ∀ kv ∈ u.setOnInsert, ¬ Conflicting (fieldPath kv.1) q)
    (hun : ∀ k ∈ u.unset, ¬ Conflicting (fieldPath k) q) : d'.under q = d.under q := by
  obtain ⟨-, d₁, h₁, rfl⟩ := Update.apply_eq_ok h
  rw [unsetFields_under hun]
  exact setFields_under (fun kv hkv => (Update.mem_writes.mp hkv).elim (hset kv) fun h => hins h.1 kv h.2) h₁

/-- **A field an update writes only on insert is left alone on every other write**:
the server refuses an update that also sets or unsets anything at, above or below
it. -/
theorem Update.apply_under_of_setOnInsert {u : Update} {d d' : Doc} (h : u.apply false d = .ok d')
    {kv : String × Subtree} (hkv : kv ∈ u.setOnInsert) :
    d'.under (fieldPath kv.1) = d.under (fieldPath kv.1) := by
  obtain ⟨-, hins, hun⟩ := Update.check_pairwise (Update.apply_eq_ok h).1
  have hk : kv.1 ∈ u.setOnInsert.map (·.1) := List.mem_map_of_mem _ hkv
  exact Update.apply_under h (fun kv' hkv' => hins _ (List.mem_map_of_mem _ hkv') _ hk)
    (fun h => absurd h Bool.false_ne_true)
    fun k hk' hc => hun _ (List.mem_append_right _ hk) k hk' hc.symm

/-- A leaf at or below `q` is read off the leaves under `q`. -/
theorem Doc.get_eq_leafAt_under {d : Doc} {q p : Path} (hq : q <+: p) :
    d.get p = leafAt (d.under q) p :=
  (leafAt_filter fun f _ hf => by simpa [hf] using hq).symm

/-- Two documents with the same leaves under `q` agree on every field at or below `q`. -/
theorem Doc.get_eq_of_under {d e : Doc} {q p : Path} (h : d.under q = e.under q) (hq : q <+: p) :
    d.get p = e.get p := by
  rw [Doc.get_eq_leafAt_under hq, Doc.get_eq_leafAt_under hq, h]

/-- The leaves at or below `p` are the value of `p`, each under its full path. -/
theorem Doc.under_eq_map_valueAt (d : Doc) (p : Path) :
    d.under p = (d.valueAt p).map fun x => (p ++ x.1, x.2) := by
  simp only [Doc.valueAt, List.map_map]
  conv_lhs => rw [← List.map_id (d.under p)]
  refine List.map_congr_left fun ⟨q, w⟩ hf => ?_
  obtain ⟨r, rfl⟩ := of_decide_eq_true (List.mem_filter.mp hf).2
  simp

/-- **A field whose value is `v` reads `v` below it.** -/
theorem Doc.get_append_of_valueAt {d : Doc} {p : Path} {v : Subtree} (h : d.valueAt p = v) (r : Path) :
    d.get (p ++ r) = leafAt v r := by
  rw [Doc.get_eq_leafAt_under (List.prefix_append p r), Doc.under_eq_map_valueAt, h, leafAt_map_prepend]

theorem setFields_valueAt_of_mem : ∀ {kvs : List (String × Subtree)} {d d' : Doc} {kv : String × Subtree},
    kvs.Pairwise (fun a b => ¬ Conflicting (fieldPath a.1) (fieldPath b.1)) → kv ∈ kvs →
    setFields kvs d = .ok d' → d'.valueAt (fieldPath kv.1) = kv.2
  | [], _, _, _, _, hkv, _ => absurd hkv (List.not_mem_nil _)
  | (k, v) :: rest, _, _, kv, hp, hkv, h => by
      obtain ⟨d₁, h₁, h₂⟩ := setFields_cons_eq_ok h
      rw [List.pairwise_cons] at hp
      rcases List.mem_cons.mp hkv with rfl | hkv
      · rw [Doc.valueAt, setFields_under (fun kv' hkv' hc => hp.1 kv' hkv' (Or.symm hc)) h₂]
        exact setField_valueAt h₁
      · exact setFields_valueAt_of_mem hp.2 hkv h₂

/-- **After an update, a field one of its `$set`s writes holds that `$set`'s value**,
field for field and in order. -/
theorem Update.apply_valueAt_of_set {u : Update} {insert : Bool} {d d' : Doc}
    (h : u.apply insert d = .ok d') {kv : String × Subtree} (hkv : kv ∈ u.set) :
    d'.valueAt (fieldPath kv.1) = kv.2 := by
  obtain ⟨hc, d₁, h₁, rfl⟩ := Update.apply_eq_ok h
  obtain ⟨-, -, hun⟩ := Update.check_pairwise hc
  rw [Doc.valueAt, unsetFields_under fun k hk hc' =>
    hun _ (List.mem_append_left _ (List.mem_map_of_mem _ hkv)) k hk (Or.symm hc')]
  exact setFields_valueAt_of_mem (Update.writes_pairwise hc insert) (Update.mem_writes.mpr (.inl hkv)) h₁

theorem Doc.has_eq_of_under {d e : Doc} {q : Path} (h : d.under q = e.under q) : d.has q = e.has q := by
  cases hd : d.has q <;> cases he : e.has q <;> try rfl
  · rw [← Doc.under_eq_nil_iff] at hd; rw [h, Doc.under_eq_nil_iff] at hd; rw [hd] at he; cases he
  · rw [← Doc.under_eq_nil_iff] at he; rw [← h, Doc.under_eq_nil_iff] at he; rw [he] at hd; cases hd

/-- **A write keeps a field present when every `$set` that meets it puts a leaf
inside it**, and nothing else the write does meets the field. -/
theorem Update.apply_has {u : Update} {insert : Bool} {d e : Doc} (h : u.apply insert d = .ok e)
    {q : Path} (hq : d.has q = true)
    (hset : ∀ kv ∈ u.set, Conflicting (fieldPath kv.1) q →
      ∃ r w, q <+: fieldPath kv.1 ++ r ∧ leafAt kv.2 r = some w)
    (hins : insert → ∀ kv ∈ u.setOnInsert, ¬ Conflicting (fieldPath kv.1) q)
    (hun : ∀ k ∈ u.unset, ¬ Conflicting (fieldPath k) q) : e.has q = true := by
  by_cases hc : ∃ kv ∈ u.set, Conflicting (fieldPath kv.1) q
  · obtain ⟨kv, hkv, hc⟩ := hc
    obtain ⟨r, w, hpre, hw⟩ := hset kv hkv hc
    exact Doc.has_of_get ((Update.apply_get_of_set h hkv r).trans hw) hpre
  · rw [Doc.has_eq_of_under (Update.apply_under h (fun kv hkv hc' => hc ⟨kv, hkv, hc'⟩) hins hun)]
    exact hq

/-! ### Documents that hold the same leaves -/

/-- **Two documents are the same exactly when they read alike at every path.** -/
theorem Doc.same_iff {d e : Doc} : d.Same e = true ↔ ∀ q, d.get q = e.get q := by
  refine ⟨fun h q => ?_, fun h => by simp [Doc.Same, h]⟩
  simp only [Doc.Same, List.all_eq_true, decide_eq_true_eq] at h
  by_cases hq : ∃ f ∈ d.fields ++ e.fields, f.1 = q
  · obtain ⟨f, hf, rfl⟩ := hq
    exact h f hf
  · have hq' : ∀ f ∈ d.fields ++ e.fields, f.1 ≠ q := fun f hf hfq => hq ⟨f, hf, hfq⟩
    rw [Doc.get, Doc.get, leafAt_eq_none fun f hf => hq' f (List.mem_append_left _ hf),
      leafAt_eq_none fun f hf => hq' f (List.mem_append_right _ hf)]

/-! ### How a command moves the documents -/

/-- **How the document of `id` may move under a write** with filter `f` and update
`u`: a stored document stays, or becomes the update applied to it when the filter
passes it; a missing one stays missing, or, for an upsert, is inserted as the update
applied on insert to the bare `_id`.  A stored document never vanishes. -/
def Moves (f : Query) (u : Update) (upsert : Bool) (id : DeviceID) : Option Doc → Option Doc → Prop
  | some d, some e => e = d ∨ f.matches d ∧ u.apply false d = .ok e
  | none, some e => upsert ∧ u.apply true ⟨id, []⟩ = .ok e
  | none, none => True
  | some _, none => False

theorem Moves.refl (f : Query) (u : Update) (upsert : Bool) (id : DeviceID) :
    ∀ o, Moves f u upsert id o o
  | none => trivial
  | some _ => .inl rfl

/-- Documents found or missing together, and related by one that `Moves` allows. -/
theorem Moves.of_rel {f : Query} {u : Update} {upsert : Bool} {id : DeviceID} {R : Doc → Doc → Prop}
    (h : ∀ d e, R d e → Moves f u upsert id (some d) (some e)) :
    ∀ {o o'}, Option.Rel R o o' → Moves f u upsert id o o'
  | _, _, .some hde => h _ _ hde
  | _, _, .none => trivial

/-- **A write with filter `f` and update `u` takes `c` to `c'`**: the document of
every `_id` moves as `Moves` allows. -/
def Evolves (f : Query) (u : Update) (upsert : Bool) (c c' : Collection) : Prop :=
  ∀ id, Moves f u upsert id (c.find? id) (c'.find? id)

theorem Evolves.refl (f : Query) (u : Update) (upsert : Bool) (c : Collection) :
    Evolves f u upsert c c :=
  fun id => Moves.refl f u upsert id _

section Evolves

variable {f : Query} {u : Update} {upsert : Bool} {c c' : Collection}

/-- A stored document is found after the write, as it was or updated. -/
theorem Evolves.find?_some (hev : Evolves f u upsert c c') {id : DeviceID} {d : Doc}
    (hd : c.find? id = some d) :
    ∃ e, c'.find? id = some e ∧ (e = d ∨ f.matches d ∧ u.apply false d = .ok e) := by
  have hmove := hev id
  rw [hd] at hmove
  cases he : c'.find? id with
  | none => rw [he] at hmove; exact hmove.elim
  | some e => rw [he] at hmove; exact ⟨e, rfl, hmove⟩

/-- A document missing before the write and found after it was inserted by an upsert. -/
theorem Evolves.find?_none (hev : Evolves f u upsert c c') {id : DeviceID} {e : Doc}
    (hd : c.find? id = none) (he : c'.find? id = some e) :
    upsert = true ∧ u.apply true ⟨id, []⟩ = .ok e := by
  have hmove := hev id
  rwa [hd, he] at hmove

/-- **A property of documents that the update keeps, and that every document it
inserts has, holds of every document after the write.** -/
theorem Evolves.forall_docs (hev : Evolves f u upsert c c') {P : Doc → Prop} (hc : ∀ d ∈ c.docs, P d)
    (hupd : ∀ d e, P d → f.matches d → u.apply false d = .ok e → P e)
    (hins : upsert → ∀ id e, u.apply true ⟨id, []⟩ = .ok e → P e) : ∀ e ∈ c'.docs, P e := by
  intro e he
  have hmove := hev e.id
  rw [Collection.find?_eq_some_iff.mpr ⟨he, rfl⟩] at hmove
  cases hd : c.find? e.id with
  | none => rw [hd] at hmove; exact hins hmove.1 _ _ hmove.2
  | some d =>
      rw [hd] at hmove
      have hdc := hc d (Collection.find?_eq_some_iff.mp hd).1
      rcases hmove with rfl | ⟨hm, h⟩
      · exact hdc
      · exact hupd d e hdc hm h

/-- **Writing back the update of a stored document the filter passes** moves that
document by the update, and no other. -/
theorem Evolves.put {d d' : Doc} (hd : c.find? d.id = some d) (hm : f.matches d = true)
    (h : u.apply false d = .ok d') (hl : d'.Layout) : Evolves f u upsert c (c.put d' hl) := by
  intro id
  rw [Collection.find?_put (by rw [Update.apply_id h, hd]; rfl)]
  split_ifs with hid
  · rw [hid, Update.apply_id h, hd]
    exact .inr ⟨hm, h⟩
  · exact Moves.refl f u upsert id _

end Evolves

/-- One run of `UpdateMany` over a list: each document stays, or is the update
applied to it when the run picks it. -/
theorem updateEach_forall₂ (sel : Doc → Bool) (u : Update) : ∀ ds : List Doc,
    List.Forall₂ (fun d e => e = d ∨ (sel d ∧ u.apply false d = .ok e)) ds (updateEach sel u ds).docs
  | [] => .nil
  | d :: ds => by
      simp only [updateEach]
      split
      · split
        · exact List.forall₂_same.mpr fun x _ => .inl rfl
        · rename_i hm _ d' h
          exact .cons (.inr ⟨hm, h⟩) (updateEach_forall₂ sel u ds)
      · exact .cons (.inl rfl) (updateEach_forall₂ sel u ds)

/-- Finding by `_id` in two lists related position by position, by a relation that
keeps `_id`s, finds related documents or nothing in both. -/
theorem find?_rel_of_forall₂ {R : Doc → Doc → Prop} (hR : ∀ d e, R d e → e.id = d.id)
    (id : DeviceID) : ∀ {ds es : List Doc}, List.Forall₂ R ds es →
      Option.Rel R (ds.find? fun x => decide (x.id = id)) (es.find? fun x => decide (x.id = id))
  | _, _, .nil => .none
  | d :: _, e :: _, .cons hde hrest => by
      rw [List.find?_cons, List.find?_cons, hR d e hde]
      by_cases h : d.id = id
      · simp only [h, decide_True]
        exact .some hde
      · simp only [h, decide_False]
        exact find?_rel_of_forall₂ hR id hrest

/-- Weakening a relation between the documents one `_id` finds, knowing what it
found before. -/
theorem rel_imp {α β : Type} {R S : α → β → Prop} {o : Option α} {o' : Option β} (h : Option.Rel R o o')
    (hRS : ∀ d e, o = some d → R d e → S d e) : Option.Rel S o o' := by
  cases h with
  | some hde => exact .some (hRS _ _ rfl hde)
  | none => exact .none

theorem rel_of_map {α γ β : Type} {f : α → γ} {R : γ → β → Prop} {R' : α → β → Prop} {o : Option α}
    {p : Option β} (h : Option.Rel R (o.map f) p) (hR : ∀ a b, o = some a → R (f a) b → R' a b) :
    Option.Rel R' o p := by
  cases o with
  | none => cases h; exact .none
  | some a =>
      cases h with
      | some h => exact .some (hR a _ rfl h)

theorem rel_some_left {α β : Type} {R : α → β → Prop} {a : α} {o : Option β}
    (h : Option.Rel R (some a) o) : ∃ b, o = some b ∧ R a b := by
  cases h with
  | some h => exact ⟨_, rfl, h⟩

theorem rel_some_right {α β : Type} {R : α → β → Prop} {o : Option α} {b : β}
    (h : Option.Rel R o (some b)) : ∃ a, o = some a ∧ R a b := by
  cases h with
  | some h => exact ⟨_, rfl, h⟩

/-- An `UpdateMany` run that writes only documents the filter passes moves each
document by its update, or not at all. -/
theorem runUpdateMany_evolves {sel : Doc → Bool} {f : Query} (hsel : ∀ d, sel d → f.matches d)
    (c : Collection) (u : Update) (hu : u.Shaped) : Evolves f u false c (runUpdateMany sel c f u hu).2 := by
  unfold runUpdateMany
  split
  · exact Evolves.refl f u false c
  · exact Evolves.refl f u false c
  · exact fun id => Moves.of_rel (fun _ _ h => h.imp_right fun h => ⟨hsel _ h.1, h.2⟩)
      (find?_rel_of_forall₂ (fun d e h => h.elim (fun h => h ▸ rfl) fun h => Update.apply_id h.2) id
        (updateEach_forall₂ sel u c.docs))

/-- **`UpdateMany` moves each document by its update, or not at all**, whether the
call fails or not. -/
theorem updateMany_evolves (net : Backend) (c : Collection) (f : Query) (u : Update)
    (hu : u.Shaped) : Evolves f u false c (updateMany net c f u hu).2 := by
  unfold updateMany
  split
  · exact runUpdateMany_evolves (fun d h => ((Bool.and_eq_true _ _).mp h).1) c u hu
  · exact runUpdateMany_evolves (fun _ h => h) c u hu

theorem runUpdateOne_evolves (c : Collection) (f : Query) (u : Update) (hu : u.Shaped) :
    Evolves f u false c (runUpdateOne c f u hu).2 := by
  unfold runUpdateOne
  split
  · exact Evolves.refl f u false c
  · split
    · split <;> exact Evolves.refl f u false c
    · rename_i d hf
      split
      · exact Evolves.refl f u false c
      · rename_i h
        dsimp only
        exact Evolves.put (Collection.find?_eq_some_iff.mpr ⟨List.mem_of_find?_eq_some hf, rfl⟩)
          (by simpa using List.find?_some hf) h _

/-- **`UpdateOne` moves the first document its filter passes, and no other**, whether
the call fails or not. -/
theorem updateOne_evolves (net : Backend) (c : Collection) (f : Query) (u : Update)
    (hu : u.Shaped) : Evolves f u false c (updateOne net c f u hu).2 := by
  unfold updateOne
  split
  · dsimp only
    split
    · exact runUpdateOne_evolves c f u hu
    · exact Evolves.refl f u false c
  · exact runUpdateOne_evolves c f u hu

theorem runUpsert_evolves (c : Collection) (id : DeviceID) (u : Update) (hu : u.Shaped) :
    Evolves (.idEq id) u true c (runUpsert c id u hu).2 := by
  unfold runUpsert
  split
  · rename_i d hf
    have hid : d.id = id := (Collection.find?_eq_some_iff.mp hf).2
    split
    · exact Evolves.refl _ u true c
    · rename_i h
      dsimp only
      exact Evolves.put (by rw [hid]; exact hf) (by simp [hid]) h _
  · rename_i hf
    split
    · exact Evolves.refl _ u true c
    · rename_i d' h
      intro id'
      rw [Collection.find?_insert]
      split_ifs with h'
      · rw [h', Update.apply_id h, hf]
        exact ⟨rfl, h⟩
      · exact Moves.refl _ u true id' _

/-- **An upsert on `id` moves that document only**: the update applied to the stored
document, or on insert to the bare `_id`; whether the call fails or not. -/
theorem upsertOne_evolves (net : Backend) (c : Collection) (id : DeviceID) (u : Update)
    (hu : u.Shaped) : Evolves (.idEq id) u true c (upsertOne net c id u hu).2 := by
  unfold upsertOne
  split
  · dsimp only
    split
    · exact runUpsert_evolves c id u hu
    · exact Evolves.refl _ u true c
  · exact runUpsert_evolves c id u hu

/-! ### Counts -/

/-- **The counts of an `UpdateMany` run whose update succeeds on every document it
picks**: it matched those documents, and modified those of them the update does not
leave as they were (`Update.modifies`). -/
theorem updateEach_counts {sel : Doc → Bool} {u : Update} : ∀ {ds : List Doc},
    (∀ d ∈ ds, sel d → ∃ e, u.apply false d = .ok e) →
    (updateEach sel u ds).error = none ∧ (updateEach sel u ds).matched = ds.countP sel ∧
      (updateEach sel u ds).modified = ds.countP fun d => sel d && u.modifies d
  | [], _ => ⟨rfl, rfl, rfl⟩
  | d :: ds, h => by
      obtain ⟨ih₁, ih₂, ih₃⟩ := updateEach_counts fun d' hd' => h d' (List.mem_cons_of_mem _ hd')
      by_cases hm : sel d
      · obtain ⟨e, he⟩ := h d (List.mem_cons_self _ _) hm
        simp only [updateEach, hm, if_true, he, List.countP_cons, ih₁, ih₂, ih₃, modifiedOne]
        cases u.modifies d <;> simp
      · simp [updateEach, hm, ih₁, ih₂, ih₃, List.countP_cons]

/-! ### On a store that does not fail -/

/-- Without an error, an `UpdateMany` run has run its update on every document it
picks and left every other one as it was. -/
theorem updateEach_forall₂_of_ok (sel : Doc → Bool) (u : Update) : ∀ ds : List Doc,
    (updateEach sel u ds).error = none →
    List.Forall₂ (fun d e => if sel d then u.apply false d = .ok e else e = d) ds (updateEach sel u ds).docs
  | [], _ => .nil
  | d :: ds, h => by
      by_cases hm : sel d
      · rcases ha : u.apply false d with e | d'
        · simp [updateEach, hm, ha] at h
        · simp only [updateEach, hm, ha, if_true] at h ⊢
          exact .cons (by simp [hm, ha]) (updateEach_forall₂_of_ok sel u ds h)
      · simp only [updateEach, hm] at h ⊢
        exact .cons (by simp [hm]) (updateEach_forall₂_of_ok sel u ds h)

/-- **`UpdateMany` on a store that does not fail, with an update that succeeds
wherever the filter passes**: the counts of `updateEach_counts`, and every
document the filter passes updated, every other one as it was. -/
theorem updateMany_healthy {c : Collection} {f : Query} {u : Update} (hu : u.Shaped)
    (hf : f.check = .ok ()) (hc : u.check = .ok ())
    (h : ∀ d ∈ c.docs, f.matches d → ∃ e, u.apply false d = .ok e) :
    (updateMany .healthy c f u hu).1 =
        .ok ⟨c.docs.countP (f.matches ·), c.docs.countP (fun d => f.matches d && u.modifies d), 0⟩ ∧
      ∀ id, Option.Rel (fun d e => if f.matches d then u.apply false d = .ok e else e = d)
        (c.find? id) ((updateMany .healthy c f u hu).2.find? id) := by
  obtain ⟨herr, hmat, hmod⟩ := updateEach_counts h
  have hrun : updateMany .healthy c f u hu = (.ok ⟨(updateEach (f.matches ·) u c.docs).matched,
      (updateEach (f.matches ·) u c.docs).modified, 0⟩, ⟨(updateEach (f.matches ·) u c.docs).docs,
        by rw [updateEach_ids]; exact c.nodup, updateEach_layout hu c.layout⟩) := by
    simp only [updateMany, runUpdateMany, Backend.healthy, hf, hc, herr]
  rw [hrun, hmat, hmod]
  refine ⟨rfl, fun id => find?_rel_of_forall₂ (fun d e hde => ?_) id
    (updateEach_forall₂_of_ok _ u c.docs herr)⟩
  split at hde
  · exact Update.apply_id hde
  · rw [hde]

/-- `UpdateOne` on a store that does not fail, when its filter passes no document. -/
theorem updateOne_of_find?_none {c : Collection} {f : Query} {u : Update} (hu : u.Shaped)
    (hf : f.check = .ok ()) (hn : c.docs.find? (f.matches ·) = none) (hc : u.check = .ok ()) :
    updateOne .healthy c f u hu = (.ok ⟨0, 0, 0⟩, c) := by
  unfold updateOne runUpdateOne
  simp only [Backend.healthy, hf]
  split
  · simp [hc]
  · rename_i d hs; rw [hn] at hs; cases hs

/-- **`UpdateOne` on a store that does not fail, when its filter passes `d` first**:
one match, and `d` replaced by the update applied to it. -/
theorem updateOne_of_find?_some {c : Collection} {f : Query} {u : Update} (hu : u.Shaped)
    (hf : f.check = .ok ()) {d d' : Doc} (hs : c.docs.find? (f.matches ·) = some d)
    (h : u.apply false d = .ok d') :
    (updateOne .healthy c f u hu).1 = .ok ⟨1, modifiedOne u d, 0⟩ ∧
      ∀ id, (updateOne .healthy c f u hu).2.find? id = if id = d.id then some d' else c.find? id := by
  have hd : c.find? d.id = some d :=
    Collection.find?_eq_some_iff.mpr ⟨List.mem_of_find?_eq_some hs, rfl⟩
  unfold updateOne runUpdateOne
  simp only [Backend.healthy, hf]
  split
  · rename_i hn; rw [hn] at hs; cases hs
  · rename_i d₀ hs₀
    obtain rfl : d₀ = d := Option.some.inj (hs₀.symm.trans hs)
    split
    · rename_i e he; rw [h] at he; cases he
    · rename_i d₁ h₁
      obtain rfl : d₁ = d' := Except.ok.inj (h₁.symm.trans h)
      refine ⟨rfl, fun id => ?_⟩
      rw [Collection.find?_put (by rw [Update.apply_id h₁, hd]; rfl), Update.apply_id h₁]

/-! ### Deletes -/

/-- **`DeleteOne` removes its own document, if it got that far, and leaves every
other.** -/
theorem find?_deleteOne (net : Backend) (c : Collection) (id id' : DeviceID) :
    (deleteOne net c id).2.find? id' = if id' = id ∧ net.wrote .deleteOne id then none else c.find? id' := by
  have hrun : (runDeleteOne c id).2.find? id' = if id' = id then none else c.find? id' := by
    unfold runDeleteOne
    split
    · rename_i hn; split_ifs with h <;> simp [h, hn]
    · simp only [Collection.find?, Collection.remove, List.find?_filter]
      split_ifs with h
      · subst h; simp
      · congr 1
        funext e
        by_cases he : e.id = id' <;> simp [he, h]
  unfold deleteOne
  split
  · rename_i e he
    rw [Backend.wrote_of_fails he]
    cases net.applied .deleteOne id <;> simp [hrun]
  · rename_i he
    simp [Backend.wrote_of_delivered he, hrun]

/-! ### The commands seen from one `_id`

A write command changes the document of an `_id` by what that document alone was:
the upsert and the writes by `_id` touch no other `_id`, and `UpdateMany` treats
each document by itself as long as its update fails on none of them. -/

/-- The update applied to a document, or the document as it was when the update
fails on it. -/
def Update.applyOr (u : Update) (d : Doc) : Doc :=
  match u.apply false d with
  | .ok e => e
  | .error _ => d

/-- **`UpdateOne` with upsert, seen from the document of its `_id`**, when the
server writes it. -/
def upsertApply (id : DeviceID) (u : Update) (o : Option Doc) : Option Doc :=
  match u.apply o.isNone (o.getD ⟨id, []⟩) with
  | .ok d' => some d'
  | .error _ => o

/-- **`UpdateOne` with upsert, seen from the document of its `_id`.** -/
def upsertDoc (net : Backend) (id : DeviceID) (u : Update) (o : Option Doc) : Option Doc :=
  if net.wrote .updateOne id then upsertApply id u o else o

/-- **`UpdateOne` by `_id`, seen from the document of that `_id`.** -/
def updateOneDoc (net : Backend) (u : Update) (o : Option Doc) : Option Doc :=
  o.map fun d => if net.wrote .updateOne d.id then u.applyOr d else d

/-- **`UpdateMany`, seen from any one document**, when the update fails on none
of the documents the filter passes. -/
def updateManyDoc (net : Backend) (f : Query) (u : Update) (o : Option Doc) : Option Doc :=
  if f.check = .ok () ∧ u.check = .ok () then
    o.map fun d => if f.matches d && net.wrote .updateMany d.id then u.applyOr d else d
  else o

/-- **`DeleteOne` by `_id`, seen from the document of that `_id`.** -/
def deleteOneDoc (net : Backend) (o : Option Doc) : Option Doc :=
  o.bind fun d => if net.wrote .deleteOne d.id then none else some d

theorem runUpsert_find? (c : Collection) (id : DeviceID) (u : Update) (hu : u.Shaped) (id' : DeviceID) :
    (runUpsert c id u hu).2.find? id' = if id' = id then upsertApply id u (c.find? id') else c.find? id' := by
  unfold runUpsert upsertApply
  split
  · rename_i d hf
    have hid : d.id = id := (Collection.find?_eq_some_iff.mp hf).2
    split
    · rename_i e h; split_ifs with h' <;> simp [h', hf, h]
    · rename_i d' h
      have hid' : d'.id = id := (Update.apply_id h).trans hid
      rw [Collection.find?_put (by rw [hid', hf]; rfl), hid']
      split_ifs with h' <;> simp [h', hf, h]
  · rename_i hf
    split
    · rename_i e h; split_ifs with h' <;> simp [h', hf, h]
    · rename_i d' h
      rw [Collection.find?_insert, Update.apply_id h]
      split_ifs with h' <;> simp [h', hf, h]

theorem upsertOne_find? (net : Backend) (c : Collection) (id : DeviceID) (u : Update) (hu : u.Shaped)
    (id' : DeviceID) :
    (upsertOne net c id u hu).2.find? id' =
      if id' = id then upsertDoc net id u (c.find? id') else c.find? id' := by
  have hrun := runUpsert_find? c id u hu id'
  unfold upsertOne upsertDoc
  split
  · rename_i e he
    rw [Backend.wrote_of_fails he]
    cases net.applied .updateOne id <;> simp [hrun]
  · rename_i he
    simp [Backend.wrote_of_delivered he, hrun]

theorem runUpdateOne_idEq_find? (c : Collection) (id : DeviceID) (u : Update) (hu : u.Shaped)
    (id' : DeviceID) :
    (runUpdateOne c (.idEq id) u hu).2.find? id' =
      if id' = id then (c.find? id').map u.applyOr else c.find? id' := by
  unfold runUpdateOne
  split
  · rename_i e he; cases he
  · split
    · rename_i hf
      rw [find?_idEq] at hf
      split <;> split_ifs with h <;> simp [h, hf]
    · rename_i d hf
      rw [find?_idEq] at hf
      have hid : d.id = id := (Collection.find?_eq_some_iff.mp hf).2
      split
      · rename_i e h; split_ifs with h' <;> simp [h', hf, h, Update.applyOr]
      · rename_i d' h
        have hid' : d'.id = id := (Update.apply_id h).trans hid
        rw [Collection.find?_put (by rw [hid', hf]; rfl), hid']
        split_ifs with h' <;> simp [h', hf, h, Update.applyOr]

theorem updateOne_idEq_find? (net : Backend) (c : Collection) (id : DeviceID) (u : Update) (hu : u.Shaped)
    (id' : DeviceID) :
    (updateOne net c (.idEq id) u hu).2.find? id' =
      if id' = id then updateOneDoc net u (c.find? id') else c.find? id' := by
  have hrun := runUpdateOne_idEq_find? c id u hu id'
  unfold updateOne updateOneDoc
  rw [find?_idEq]
  split
  · rename_i e he
    simp only [Backend.wrote_of_fails he]
    by_cases h : id' = id
    · subst h
      cases hf : c.find? id' with
      | none => simp [hf]
      | some d =>
          have hid : d.id = id' := (Collection.find?_eq_some_iff.mp hf).2
          cases ha : net.applied .updateOne d.id <;> simp [hf, hrun, ha]
    · split_ifs <;> simp [h, hrun]
  · rename_i he
    simp only [hrun, Backend.wrote_of_delivered he, if_true]

/-- A relation that is a function, between two options. -/
theorem rel_eq_map {R : Doc → Doc → Prop} {g : Doc → Doc} {o o' : Option Doc}
    (h : Option.Rel R o o') (hg : ∀ d e, R d e → e = g d) : o' = o.map g := by
  cases h with
  | some hde => exact congrArg some (hg _ _ hde)
  | none => rfl

theorem updateMany_find? (net : Backend) (c : Collection) (f : Query) (u : Update) (hu : u.Shaped)
    (hok : ∀ d ∈ c.docs, f.matches d → ∃ e, u.apply false d = .ok e) (id : DeviceID) :
    (updateMany net c f u hu).2.find? id = updateManyDoc net f u (c.find? id) := by
  -- a run that picks only documents the filter passes, seen from one `_id`
  have hrun : ∀ sel : Doc → Bool, (∀ d, sel d → f.matches d) →
      (runUpdateMany sel c f u hu).2.find? id = if f.check = .ok () ∧ u.check = .ok () then
        (c.find? id).map (fun d => if sel d then u.applyOr d else d) else c.find? id := fun sel hsel => by
    unfold runUpdateMany
    split
    · rename_i e he; simp [he]
    · rename_i e _ he; simp [he]
    · rename_i hf hc
      simp only [hf, hc, and_self, if_true, Collection.find?]
      refine rel_eq_map (find?_rel_of_forall₂ (fun d e h => ?_) id (updateEach_forall₂_of_ok sel u c.docs
        (updateEach_counts fun d hd hs => hok d hd (hsel d hs)).1)) fun d e h => ?_
      · split_ifs at h
        · exact Update.apply_id h
        · exact h ▸ rfl
      · split_ifs at h with hm <;> simp [hm, h, Update.applyOr]
  unfold updateMany updateManyDoc
  split
  · rename_i e he
    simp only [Backend.wrote_of_fails he]
    exact hrun _ fun d h => ((Bool.and_eq_true _ _).mp h).1
  · rename_i he
    simp only [Backend.wrote_of_delivered he, Bool.and_true]
    exact hrun _ fun _ h => h

theorem deleteOne_find?_eq (net : Backend) (c : Collection) (id id' : DeviceID) :
    (deleteOne net c id).2.find? id' =
      if id' = id then deleteOneDoc net (c.find? id') else c.find? id' := by
  rw [find?_deleteOne]
  by_cases h : id' = id
  · subst h
    cases hc : c.find? id' with
    | none => simp [deleteOneDoc]
    | some d =>
        have hid : d.id = id' := (Collection.find?_eq_some_iff.mp hc).2
        cases hw : net.wrote .deleteOne id' <;> simp [deleteOneDoc, hid, hw]
  · simp [h]

end DeviceInventory
