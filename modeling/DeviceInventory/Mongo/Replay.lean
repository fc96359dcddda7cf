import DeviceInventory.Mongo.Frame

/-!
# Writing again

MongoDB's `$set`, `$setOnInsert` and `$unset` write values, not changes to values.
Two facts follow, for every update and for each write command seen from one `_id`:

* a write delivered a second time, right after the first, changes nothing a read
  can see (`Update.apply_again`);
* a write cannot tell apart two documents that read alike: it fails on both or on
  neither, and leaves them reading alike (`Update.apply_congr`).

Reading alike is weaker than equality: it is what the reads of a document see,
and no read of one document sees the order of its leaves.

## Main definitions

* `Doc.ReadsAlike` — the same `_id`, and the same leaf at every path.
* `WriteAlike` — two outcomes of a write: both failed, or both documents that read
  alike.
* `Replayable` — a write seen from one `_id` that keeps documents reading alike and
  that a second delivery does not change.

## Main statements

* `Query.matches_congr` — a filter passes both of two documents that read alike, or
  neither.
* `Update.apply_congr` — an update keeps documents reading alike.
* `Update.apply_again` — an update applied again changes no read.
* `upsertDoc_replayable`, `updateOneDoc_replayable`, `updateManyDoc_replayable`,
  `deleteOneDoc_replayable` — every write command, seen from one `_id`, is
  replayable.
-/

namespace DeviceInventory

/-! ### Documents that read alike -/

/-- **Two documents no read can tell apart**: the same `_id`, and the same leaf at
every path. -/
def Doc.ReadsAlike (d e : Doc) : Prop := d.id = e.id ∧ ∀ q, d.get q = e.get q

instance (d e : Doc) : Decidable (d.ReadsAlike e) :=
  decidable_of_iff (d.id = e.id ∧ d.Same e = true) (and_congr_right fun _ => Doc.same_iff)

/-- A leaf of a document is read at its path. -/
theorem Doc.get_of_mem {d : Doc} {x : Path × Leaf} (hx : x ∈ d.fields) : ∃ w, d.get x.1 = some w := by
  obtain ⟨y, hy⟩ := Option.isSome_iff_exists.mp
    (List.find?_isSome.mpr ⟨x, hx, decide_eq_true rfl⟩ : (d.fields.find? fun f => decide (f.1 = x.1)).isSome)
  exact ⟨y.2, by simp only [Doc.get, leafAt, hy, Option.map_some']⟩

namespace Doc.ReadsAlike

variable {d e f : Doc}

theorem refl (d : Doc) : d.ReadsAlike d := ⟨rfl, fun _ => rfl⟩

theorem symm (h : d.ReadsAlike e) : e.ReadsAlike d := ⟨h.1.symm, fun q => (h.2 q).symm⟩

theorem trans (h : d.ReadsAlike e) (h' : e.ReadsAlike f) : d.ReadsAlike f :=
  ⟨h.1.trans h'.1, fun q => (h.2 q).trans (h'.2 q)⟩

theorem any_of_any (h : d.ReadsAlike e) {P : Path → Bool} (hd : d.fields.any (fun x => P x.1) = true) :
    e.fields.any (fun x => P x.1) = true := by
  obtain ⟨x, hx, hP⟩ := List.any_eq_true.mp hd
  obtain ⟨w, hw⟩ := Doc.get_of_mem hx
  rw [h.2] at hw
  exact List.any_eq_true.mpr ⟨(x.1, w), mem_of_leafAt hw, hP⟩

/-- **Documents that read alike hold leaves at the same paths.** -/
theorem any_path_eq (h : d.ReadsAlike e) (P : Path → Bool) :
    d.fields.any (fun x => P x.1) = e.fields.any (fun x => P x.1) :=
  Bool.eq_iff_iff.mpr ⟨h.any_of_any, h.symm.any_of_any⟩

theorem has_eq (h : d.ReadsAlike e) (p : Path) : d.has p = e.has p :=
  h.any_path_eq fun q => decide (p <+: q)

theorem eqMatch_eq (h : d.ReadsAlike e) (p : Path) (v : Operand) : eqMatch d p v = eqMatch e p v := by
  cases v <;> simp only [eqMatch, h.has_eq, h.2]

end Doc.ReadsAlike

theorem rel_readsAlike_refl : ∀ o : Option Doc, Option.Rel Doc.ReadsAlike o o
  | none => .none
  | some d => .some (.refl d)

theorem rel_readsAlike_trans {o₁ o₂ o₃ : Option Doc} (h : Option.Rel Doc.ReadsAlike o₁ o₂)
    (h' : Option.Rel Doc.ReadsAlike o₂ o₃) : Option.Rel Doc.ReadsAlike o₁ o₃ := by
  cases h with
  | none => exact h'
  | some hde =>
      obtain ⟨_, rfl, hef⟩ := rel_some_left h'
      exact .some (hde.trans hef)

mutual

/-- **A filter cannot tell apart documents that read alike.** -/
theorem Query.matches_congr {d e : Doc} (h : d.ReadsAlike e) : ∀ f : Query, f.matches d = f.matches e
  | .all => rfl
  | .and qs => by simp only [Query.matches, Query.matchesAll_congr h qs]
  | .or qs => by simp only [Query.matches, Query.matchesAny_congr h qs]
  | .cmp _ _ _ | .eq _ _ => by simp only [Query.matches, h.eqMatch_eq]
  | .existsField _ _ => by simp only [Query.matches, h.has_eq]
  | .idEq _ | .idIn _ => by simp only [Query.matches, h.1]

theorem Query.matchesAll_congr {d e : Doc} (h : d.ReadsAlike e) :
    ∀ qs : List Query, Query.matchesAll d qs = Query.matchesAll e qs
  | [] => rfl
  | q :: qs => by simp only [Query.matchesAll, Query.matches_congr h q, Query.matchesAll_congr h qs]

theorem Query.matchesAny_congr {d e : Doc} (h : d.ReadsAlike e) :
    ∀ qs : List Query, Query.matchesAny d qs = Query.matchesAny e qs
  | [] => rfl
  | q :: qs => by simp only [Query.matchesAny, Query.matches_congr h q, Query.matchesAny_congr h qs]

end

/-! ### Writes to documents that read alike -/

/-- **Two outcomes of a write no read can tell apart**: both failed, or both are
documents that read alike. -/
def WriteAlike : Except MongoError Doc → Except MongoError Doc → Prop
  | .error _, .error _ => True
  | .ok d, .ok e => d.ReadsAlike e
  | _, _ => False

theorem WriteAlike.bind {r₁ r₂ : Except MongoError Doc} {k₁ k₂ : Doc → Except MongoError Doc}
    (h : WriteAlike r₁ r₂) (hk : ∀ d e, d.ReadsAlike e → WriteAlike (k₁ d) (k₂ e)) :
    WriteAlike (r₁.bind k₁) (r₂.bind k₂) :=
  match r₁, r₂, h with
  | .error _, .error _, _ => trivial
  | .ok _, .ok _, h => hk _ _ h
  | .error _, .ok _, h | .ok _, .error _, h => h.elim

theorem setField_congr (p : Path) (v : Subtree) {d e : Doc} (h : d.ReadsAlike e) :
    WriteAlike (setField p v d) (setField p v e) := by
  have hblock : d.fields.any (fun f => decide (f.1 <+: p ∧ f.1 ≠ p)) =
      e.fields.any (fun f => decide (f.1 <+: p ∧ f.1 ≠ p)) := h.any_path_eq fun q => decide (q <+: p ∧ q ≠ p)
  have hok : ∀ {d' e'}, setField p v d = .ok d' → setField p v e = .ok e' → d'.ReadsAlike e' := fun hd he =>
    ⟨by rw [setField_id hd, setField_id he, h.1], fun q => by
      by_cases hq : p <+: q
      · obtain ⟨r, rfl⟩ := hq
        rw [setField_get_append hd, setField_get_append he]
      · rw [setField_get_of_outside hd hq, setField_get_of_outside he hq, h.2]⟩
  unfold setField
  rw [hblock]
  split
  · trivial
  · rename_i hc
    exact hok (by unfold setField; rw [hblock, if_neg hc]) (by unfold setField; rw [if_neg hc])

theorem setFields_congr : ∀ (kvs : List (String × Subtree)) {d e : Doc}, d.ReadsAlike e →
    WriteAlike (setFields kvs d) (setFields kvs e)
  | [], _, _, h => h
  | (_, v) :: kvs, _, _, h => (setField_congr _ v h).bind fun _ _ h' => setFields_congr kvs h'

/-- After a `$unset` of `p`, no leaf lies at or below `p`. -/
theorem unsetField_get_below {p q : Path} (d : Doc) (hq : p <+: q) : (unsetField p d).get q = none :=
  leafAt_eq_none fun f hf hfq => by simp_all [unsetField]

theorem Doc.ReadsAlike.unsetFields {d e : Doc} (h : d.ReadsAlike e) (ks : List String) :
    (ks.foldl (fun d k => unsetField (fieldPath k) d) d).ReadsAlike
      (ks.foldl (fun d k => unsetField (fieldPath k) d) e) := by
  induction ks generalizing d e with
  | nil => exact h
  | cons k ks ih =>
      refine ih ⟨h.1, fun q => ?_⟩
      by_cases hq : fieldPath k <+: q
      · rw [unsetField_get_below d hq, unsetField_get_below e hq]
      · rw [unsetField_get_of_outside d hq, unsetField_get_of_outside e hq, h.2]

/-- **An update cannot tell apart documents that read alike**: it fails on both or
on neither, and leaves them reading alike. -/
theorem Update.apply_congr (u : Update) (insert : Bool) {d e : Doc} (h : d.ReadsAlike e) :
    WriteAlike (u.apply insert d) (u.apply insert e) := by
  simp only [Update.apply, bind]
  cases u.check with
  | error => trivial
  | ok => exact (setFields_congr (u.writes insert) h).bind fun _ _ h₁ => h₁.unsetFields u.unset

/-! ### Writing again -/

/-- A `$unset` only takes leaves away: a path with no leaf keeps none. -/
theorem unsetFields_get_none {q : Path} (ks : List String) {d : Doc} (h : d.get q = none) :
    (ks.foldl (fun d k => unsetField (fieldPath k) d) d).get q = none :=
  leafAt_eq_none (unsetFields_forall (Q := fun f => f.1 ≠ q) ks fun f hf hfq => by
    obtain ⟨w, hw⟩ := Doc.get_of_mem hf
    rw [hfq, h] at hw
    cases hw)

theorem unsetFields_get_of_mem {q : Path} {k : String} (hq : fieldPath k <+: q) :
    ∀ {ks : List String} {d : Doc}, k ∈ ks → (ks.foldl (fun d k => unsetField (fieldPath k) d) d).get q = none
  | k' :: ks, d, hk => by
      rw [List.foldl_cons]
      rcases List.mem_cons.mp hk with rfl | hk
      · exact unsetFields_get_none ks (unsetField_get_below d hq)
      · exact unsetFields_get_of_mem hq hk

/-- **A field inside a `$unset` of an update reads nothing** afterwards. -/
theorem Update.apply_get_of_unset {u : Update} {insert : Bool} {d d' : Doc} (h : u.apply insert d = .ok d')
    {k : String} (hk : k ∈ u.unset) {q : Path} (hq : fieldPath k <+: q) : d'.get q = none := by
  obtain ⟨-, -, -, rfl⟩ := Update.apply_eq_ok h
  exact unsetFields_get_of_mem hq hk

/-- **An update applied again changes no read**: the second delivery, on the
document the first one left (and so never as an insert), writes the values the
first wrote, and takes away what the first took away. -/
theorem Update.apply_again {u : Update} {insert : Bool} {d e e' : Doc} (h : u.apply insert d = .ok e)
    (h' : u.apply false e = .ok e') : e'.ReadsAlike e := by
  refine ⟨Update.apply_id h', fun q => ?_⟩
  by_cases hs : ∃ kv ∈ u.set, fieldPath kv.1 <+: q
  · obtain ⟨kv, hkv, r, rfl⟩ := hs
    rw [Update.apply_get_of_set h' hkv, Update.apply_get_of_set h hkv]
  by_cases hu : ∃ k ∈ u.unset, fieldPath k <+: q
  · obtain ⟨k, hk, hq⟩ := hu
    rw [Update.apply_get_of_unset h' hk hq, Update.apply_get_of_unset h hk hq]
  push_neg at hs hu
  exact Update.apply_get_of_outside h' hs (fun h => absurd h Bool.false_ne_true) hu

theorem Update.applyOr_congr (u : Update) {d e : Doc} (h : d.ReadsAlike e) :
    (u.applyOr d).ReadsAlike (u.applyOr e) := by
  have hu := u.apply_congr false h
  rcases hd : u.apply false d with _ | d' <;> rcases he : u.apply false e with _ | e' <;>
    simp only [hd, he, WriteAlike] at hu <;> simp only [Update.applyOr, hd, he]
  · exact h
  · exact hu

theorem Update.applyOr_of_apply {u : Update} {insert : Bool} {d e : Doc} (h : u.apply insert d = .ok e) :
    (u.applyOr e).ReadsAlike e := by
  unfold Update.applyOr
  split
  · exact Update.apply_again h ‹_›
  · exact .refl e

theorem Update.applyOr_again (u : Update) (d : Doc) : (u.applyOr (u.applyOr d)).ReadsAlike (u.applyOr d) := by
  rcases hd : u.apply false d with _ | e
  · simp only [Update.applyOr, hd]; exact .refl d
  · have he : u.applyOr d = e := by simp only [Update.applyOr, hd]
    rw [he]
    exact Update.applyOr_of_apply hd

/-! ### The write commands, delivered again -/

/-- **A write seen from one `_id` that can be delivered again**: it keeps documents
reading alike, and a second delivery right after the first changes no read. -/
structure Replayable (F : Option Doc → Option Doc) : Prop where
  congr : ∀ {o o'}, Option.Rel Doc.ReadsAlike o o' → Option.Rel Doc.ReadsAlike (F o) (F o')
  again : ∀ o, Option.Rel Doc.ReadsAlike (F (F o)) (F o)

namespace Replayable

theorem id : Replayable fun o => o := ⟨fun h => h, rel_readsAlike_refl⟩

theorem ite {c : Prop} [Decidable c] {F : Option Doc → Option Doc} (hF : Replayable F) :
    Replayable fun o => if c then F o else o := by
  by_cases hc : c
  · simpa only [hc, if_true] using hF
  · simpa only [hc, if_false] using Replayable.id

theorem map {g : Doc → Doc} (hcongr : ∀ {d e}, d.ReadsAlike e → (g d).ReadsAlike (g e))
    (hagain : ∀ d, (g (g d)).ReadsAlike (g d)) : Replayable (Option.map g) where
  congr h := by
    cases h with
    | none => exact .none
    | some hde => exact .some (hcongr hde)
  again o := by
    cases o with
    | none => exact .none
    | some d => exact .some (hagain d)

end Replayable

/-- **The update applied to the documents a test picks is replayable**, when the test
cannot tell apart documents that read alike. -/
theorem Replayable.map_applyOr {u : Update} {P : Doc → Bool} (hP : ∀ {d e}, d.ReadsAlike e → P d = P e) :
    Replayable (Option.map fun d => if P d then u.applyOr d else d) := by
  refine Replayable.map (fun {d e} h => ?_) fun d => ?_
  · rw [hP h]
    split
    · exact u.applyOr_congr h
    · exact h
  · by_cases hd : P d
    · simp only [hd, if_true]
      split
      · exact u.applyOr_again d
      · exact .refl _
    · simp only [hd, Bool.false_eq_true, if_false]; exact .refl d

theorem upsertApply_replayable (id : DeviceID) (u : Update) : Replayable (upsertApply id u) := by
  have hsome : ∀ d, upsertApply id u (some d) = some (u.applyOr d) := fun d => by
    rcases ha : u.apply false d with _ | d' <;>
      simp only [upsertApply, Option.isNone_some, Option.getD_some, Update.applyOr, ha]
  refine ⟨fun h => ?_, fun o => ?_⟩
  · cases h with
    | none => exact rel_readsAlike_refl _
    | some hde => rw [hsome, hsome]; exact .some (u.applyOr_congr hde)
  · cases o with
    | some d => rw [hsome, hsome]; exact .some (u.applyOr_again d)
    | none =>
        rcases hi : u.apply true ⟨id, []⟩ with _ | d
        · have : upsertApply id u none = none := by
            simp only [upsertApply, Option.isNone_none, Option.getD_none, hi]
          rw [this, this]; exact .none
        · have : upsertApply id u none = some d := by
            simp only [upsertApply, Option.isNone_none, Option.getD_none, hi]
          rw [this, hsome]; exact .some (Update.applyOr_of_apply hi)

theorem upsertDoc_replayable (net : Backend) (id : DeviceID) (u : Update) : Replayable (upsertDoc net id u) :=
  (upsertApply_replayable id u).ite

theorem updateOneDoc_replayable (net : Backend) (u : Update) : Replayable (updateOneDoc net u) :=
  Replayable.map_applyOr fun h => by rw [h.1]

theorem updateManyDoc_replayable (net : Backend) (f : Query) (u : Update) :
    Replayable (updateManyDoc net f u) := by
  unfold updateManyDoc
  split
  · exact Replayable.map_applyOr fun h => by rw [Query.matches_congr h f, h.1]
  · exact Replayable.id

theorem deleteOneDoc_replayable (net : Backend) : Replayable (deleteOneDoc net) := by
  refine ⟨fun h => ?_, fun o => ?_⟩
  · cases h with
    | none => exact .none
    | some hde =>
        simp only [deleteOneDoc, Option.some_bind, hde.1]
        split
        · exact .none
        · exact .some hde
  · cases o with
    | none => exact .none
    | some d =>
        by_cases hw : net.wrote .deleteOne d.id
        · simp only [deleteOneDoc, Option.some_bind, hw, if_true, Option.none_bind]; exact .none
        · simp only [deleteOneDoc, Option.some_bind, hw, Bool.false_eq_true, if_false]; exact .some (.refl d)

end DeviceInventory
