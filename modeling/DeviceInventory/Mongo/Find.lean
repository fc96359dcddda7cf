import DeviceInventory.Mongo.Aggregate
import Mathlib.Data.List.Sort

/-!
# `Find` with options

The read `SearchDevices` makes: `Find(filter, opts)` with a skip, a limit and a
sort document of several keys, then `cursor.All` over its results.

## Main definitions

* `sortBy` — MongoDB's order for a sort document of several keys: by the first
  key, ties broken by the next.
* `sortDocs` — the server's sort on such a document.
* `MapOrder` — the order Go hands out a map's entries in, and so the order the
  driver encodes the keys of a `bson.M` in: some arrangement of them, not fixed.
* `FindOptions`, `find`, `Cursor.all` — the command and the read of its results.

## Main statements

* `sortBy_trans`, `sortBy_total` — the order is a total preorder, so the server's
  sort is an arrangement of the documents sorted by it (`sortDocs_sorted`).
* `find_healthy` — what `Find` returns on a server that runs it.

## Design notes

The server's sort is not stable; the model's is `insertionSort`, stable and
structurally recursive so that `find` stays evaluable by `decide`, and what is proved of
it holds of every arrangement sorted by `sortBy`.  A sort document built as a
`bson.M` reaches the server with its keys in the order `MapOrder` gives them: Go
varies that order from run to run, and with it the priority of the keys.
-/

namespace DeviceInventory

/-! ### Sorting on several keys -/

/-- **MongoDB's order for a sort document**, its keys most significant first: a
document goes before another when it goes strictly before it on the first key,
or ties with it there and goes before it on the remaining keys. -/
def sortBy : List (Path × Bool) → Doc → Doc → Bool
  | [], _, _ => true
  | (p, ascending) :: keys, a, b =>
      sortOrder p ascending a b && (!sortOrder p ascending b a || sortBy keys a b)

theorem sortBy_trans : ∀ {keys : List (Path × Bool)} {a b c : Doc},
    sortBy keys a b = true → sortBy keys b c = true → sortBy keys a c = true
  | [], _, _, _, _, _ => rfl
  | (p, asc) :: keys, a, b, c, hab, hbc => by
      simp only [sortBy, Bool.and_eq_true, Bool.or_eq_true, Bool.not_eq_true'] at hab hbc ⊢
      refine ⟨sortOrder_trans hab.1 hbc.1, ?_⟩
      -- `c` before `a` on the first key would put `b` before `a`, or `c` before `b`
      have hca : sortOrder p asc c a = true → sortOrder p asc b a = true ∧ sortOrder p asc c b = true :=
        fun h => ⟨sortOrder_trans hbc.1 h, sortOrder_trans h hab.1⟩
      rcases hab.2 with hba | hab'
      · exact .inl (Bool.eq_false_iff.mpr fun h => by simp [(hca h).1] at hba)
      · rcases hbc.2 with hcb | hbc'
        · exact .inl (Bool.eq_false_iff.mpr fun h => by simp [(hca h).2] at hcb)
        · exact .inr (sortBy_trans hab' hbc')

theorem sortBy_total : ∀ (keys : List (Path × Bool)) (a b : Doc),
    (sortBy keys a b || sortBy keys b a) = true
  | [], _, _ => rfl
  | (p, asc) :: keys, a, b => by
      have htot := sortOrder_total p asc a b
      cases hab : sortOrder p asc a b <;> cases hba : sortOrder p asc b a <;>
        simp_all [sortBy, sortBy_total keys a b]

instance sortBy_isTotal (keys : List (Path × Bool)) :
    IsTotal Doc fun a b => sortBy keys a b = true :=
  ⟨fun a b => by simpa using sortBy_total keys a b⟩

instance sortBy_isTrans (keys : List (Path × Bool)) :
    IsTrans Doc fun a b => sortBy keys a b = true :=
  ⟨fun _ _ _ => sortBy_trans⟩

/-- The keys of a sort document: each field's path, going up for `1`. -/
def sortKeys (sort : List (String × Int)) : List (Path × Bool) :=
  sort.map fun kv => (fieldPath kv.1, kv.2 = 1)

/-- **The server's sort** on the keys of a sort document. -/
def sortDocs (keys : List (Path × Bool)) (ds : List Doc) : List Doc :=
  ds.insertionSort fun a b => sortBy keys a b = true

theorem sortDocs_perm (keys : List (Path × Bool)) (ds : List Doc) : (sortDocs keys ds).Perm ds :=
  List.perm_insertionSort _ ds

theorem sortDocs_sorted (keys : List (Path × Bool)) (ds : List Doc) :
    (sortDocs keys ds).Pairwise fun a b => sortBy keys a b = true :=
  List.sorted_insertionSort _ ds

/-! ### Go maps -/

/-- **The order Go hands out the entries of a map in**, and so the order the driver
encodes the keys of a `bson.M` in: some arrangement of the entries, which Go
varies from one iteration to the next. -/
structure MapOrder where
  arrange : List (String × Int) → List (String × Int)
  perm : ∀ m, (arrange m).Perm m

/-- One order Go may hand out a map's entries in: as they were assigned. -/
def MapOrder.assigned : MapOrder := ⟨id, List.Perm.refl⟩

/-- Another: the reverse, which for a map of two entries Go also produces. -/
def MapOrder.reversed : MapOrder := ⟨List.reverse, List.reverse_perm⟩

/-! ### The command -/

/-- `options.FindOptions`, as far as the store sets them: `SetSkip`, `SetLimit`, and
`SetSort` (the empty sort document when it sets none). -/
structure FindOptions where
  skip : Int
  limit : Int
  sort : List (String × Int)

/-- **`Find(filter, opts)`**: the documents the filter passes, sorted, the first
`skip` of them dropped and at most `limit` kept: all when the limit is zero, as
many as its absolute value in a single batch when it is negative.  The server
refuses a negative skip and a sort order other than `1` and `-1`. -/
def find (net : Backend) (c : Collection) (filter : Query) (opts : FindOptions) :
    Except MongoError Cursor :=
  match net.fails .find, filter.check with
  | some e, _ | none, .error e => .error e
  | none, .ok () =>
    if opts.skip < 0 then .error (.badStage "skip")
    else if opts.sort.all fun kv => kv.2 == 1 || kv.2 == -1 then
      let ds := (sortDocs (sortKeys opts.sort) (select c.docs filter)).drop opts.skip.toNat
      .ok (.docs (if opts.limit = 0 then ds else ds.take opts.limit.natAbs))
    else .error (.badStage "sort")

/-- **`cursor.All`**: every document the cursor holds, unless reading them fails. -/
def Cursor.all (net : Backend) : Cursor → Except MongoError (List Doc)
  | .docs ds =>
    match net.fails .cursorAll with
    | some e => .error e
    | none => .ok ds
  | .rows _ => .error (.backend "cannot decode a row into a document")

/-- **`Find` on a server that runs it**, for a filter and options it accepts and a
positive limit: the sorted matches, from the skip on, at most `limit` of them. -/
theorem find_healthy {c : Collection} {filter : Query} (hf : filter.check = .ok ())
    {opts : FindOptions} (hskip : 0 ≤ opts.skip) (hsort : ∀ kv ∈ opts.sort, kv.2 = 1 ∨ kv.2 = -1)
    (hlimit : 0 < opts.limit) :
    find .healthy c filter opts =
      .ok (.docs (((sortDocs (sortKeys opts.sort) (select c.docs filter)).drop opts.skip.toNat).take
        opts.limit.toNat)) := by
  have hall : (opts.sort.all fun kv => kv.2 == 1 || kv.2 == -1) = true :=
    List.all_eq_true.mpr fun kv hkv => by simpa using hsort kv hkv
  simp only [find, Backend.healthy_fails, hf, not_lt.mpr hskip, ite_false, hall, ite_true,
    Int.ne_of_gt hlimit]
  rw [show opts.limit.natAbs = opts.limit.toNat by omega]

/-- `Find` refuses a negative skip, before it reads a document. -/
theorem find_negative_skip {net : Backend} (hnet : net.fails .find = none) {c : Collection}
    {filter : Query} (hf : filter.check = .ok ()) {opts : FindOptions} (hskip : opts.skip < 0) :
    find net c filter opts = .error (.badStage "skip") := by
  simp only [find, hnet, hf, hskip, ite_true]

@[simp] theorem Cursor.all_healthy (ds : List Doc) : Cursor.all .healthy (.docs ds) = .ok ds := rfl

end DeviceInventory
