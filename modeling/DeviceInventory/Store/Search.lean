import DeviceInventory.Mongo.Find
import DeviceInventory.Store.Devices

/-!
# Searching devices

`SearchDevices` compiles `model.SearchParams` into one `Find`: a conjunction of the
filters `{attributes.<scope>-<attribute>.value: {<type>: value}}` and of an `_id`
list, a page given as a skip and a limit, and a sort document built as a
`bson.M`; the count comes from a second command, `CountDocuments`, over the same
filter.

## Main definitions

* `FilterPredicate`, `SortCriteria`, `SearchParams` — the search, as the store
  reads it; `Page` and `PerPage` are Go `int`s (`GoInt`).
* `goWrap` — Go's `int` arithmetic: the exact result wrapped into 64 bits.
* `searchQuery`, `searchSort`, `searchSkip`, `searchOptions`, `searchDevices`.
* `SearchParams.Selects`, `SearchParams.listedKeys` — the spec's selection, and the
  order of the sort entries as listed.

## Main statements

* `searchQuery_matches` — the compiled filter selects exactly what the spec
  selects.
* `searchDevices_pages` — what the search returns on a store that does not fail:
  the matches sorted on the sort keys in the order the map hands them out, from
  the skip computed in Go's `int` on, with the number of all matches.
* `searchDevices_map_order`, `searchDevices_skip_wraps` — the two at their failing
  inputs: two devices listed in either order by the same search, and a page past
  every device that returns the first one.
* `listings_agree_with_lookups` — the pages of `GetDevices` and `SearchDevices`
  hold distinct devices, each as `GetDevice` returns it.

## Design notes

Two things in the code make the result depend on more than the search.  The
sort document is a `bson.M`, so with two sort keys or more the driver encodes
them in Go's map order (`MapOrder`), which varies between runs, while the server
gives the first key priority; an entry naming a field an earlier one named
replaces that entry's order.  And the skip is `(Page - 1) * PerPage` in Go's
`int`, which wraps past `2^63`: the page then returned is another page, or the
server refuses the negative skip.
-/

namespace DeviceInventory

/-! ### Go integers -/

/-- **A value of Go's `int`**, 64 bits wide. -/
def GoInt (x : Int) : Prop := -9223372036854775808 ≤ x ∧ x < 9223372036854775808

instance (x : Int) : Decidable (GoInt x) := inferInstanceAs (Decidable (_ ∧ _))

/-- **Go's `int` arithmetic**: the exact result, wrapped into 64 bits (two's
complement). -/
def goWrap (x : Int) : Int :=
  (x + 9223372036854775808) % 18446744073709551616 - 9223372036854775808

/-- The machine result is the exact one whenever that fits. -/
theorem goWrap_of_goInt {x : Int} (h : GoInt x) : goWrap x = x := by
  unfold GoInt at h; unfold goWrap; omega

/-! ### The search -/

/-- Modelled from its use in `SearchDevices` (the `model` package is not among the
sources): `model.FilterPredicate`, a comparison of an attribute's value. -/
structure FilterPredicate where
  scope : String
  /-- `Attribute` (a keyword in Lean, hence the name) -/
  attr : String
  type : String
  value : Operand
deriving DecidableEq, Repr

/-- Modelled from its use in `SearchDevices`: `model.SortCriteria`. -/
structure SortCriteria where
  scope : String
  /-- `Attribute` -/
  attr : String
  order : String
deriving DecidableEq, Repr

/-- Modelled from its use in `SearchDevices`: `model.SearchParams`, whose `Page` and
`PerPage` are Go `int`s. -/
structure SearchParams where
  page : Int
  perPage : Int
  filters : List FilterPredicate
  sort : List SortCriteria
  deviceIDs : List DeviceID
  page_goInt : GoInt page
  perPage_goInt : GoInt perPage

/-- The filter of one predicate, `{attributes.<scope>-<attribute>.value: {<type>: value}}`. -/
def searchFilter (filter : FilterPredicate) : Query :=
  let op := filter.type
  let name := filter.scope ++ "-" ++ filter.attr
  let field := dbDevAttributes ++ "." ++ name ++ "." ++ dbDevAttributesValue
  .cmp field op filter.value

/-- `findQuery` of `SearchDevices`: the predicates, and the `_id` list when it is not
empty, as one `$and`; `{}` when there is nothing to filter on. -/
def searchQuery (p : SearchParams) : Query :=
  let queryFilters := p.filters.map searchFilter ++
    if p.deviceIDs.length > 0 then [.idIn p.deviceIDs] else []
  if queryFilters.length > 0 then .and queryFilters else .all

/-- A `bson.M` assignment `m[k] = v` in a map of sort orders. -/
def sortSet (m : List (String × Int)) (k : String) (v : Int) : List (String × Int) :=
  m.filter (fun kv => kv.1 ≠ k) ++ [(k, v)]

/-- `sortField`, the `bson.M` of the sort: each entry's field set to `1`, then to `-1`
when its order is "desc". -/
def searchSort (p : SearchParams) : List (String × Int) :=
  p.sort.foldl (fun sortField sortQ =>
    let name := sortQ.scope ++ "-" ++ sortQ.attr
    let field := dbDevAttributes ++ "." ++ name ++ "." ++ dbDevAttributesValue
    let sortField := sortSet sortField field 1
    if sortQ.order = "desc" then sortSet sortField field (-1) else sortField) []

/-- The skip, `(Page - 1) * PerPage` in Go's `int`. -/
def searchSkip (p : SearchParams) : Int := goWrap (goWrap (p.page - 1) * p.perPage)

/-- `findOptions`: the skip, the limit `PerPage`, and the sort document, its keys in
the order Go hands them out, when the search has sort entries. -/
def searchOptions (iter : MapOrder) (p : SearchParams) : FindOptions :=
  ⟨searchSkip p, p.perPage, if p.sort.length > 0 then iter.arrange (searchSort p) else []⟩

/-- **`SearchDevices`**, with Go's order `iter` for the sort map.  A failure of
`CountDocuments` is dropped: the count is then `0`, with no error. -/
def searchDevices (net : Backend) (iter : MapOrder) (c : Collection) (p : SearchParams) :
    Except Failure (List Doc × Int) :=
  match find net c (searchQuery p) (searchOptions iter p) with
  | .error e => .error (.error (.wrap "failed to search devices" (.mongo e)))
  | .ok cursor =>
    match cursor.all net with
    | .error e => .error (.error (.wrap "failed to search devices" (.mongo e)))
    | .ok devices =>
      let count := match countDocuments net c (searchQuery p) with
        | .ok n => n
        | .error _ => 0
      .ok (devices, count)

/-! ### The spec's search -/

/-- Modelled on the spec: a device passes an `$eq` predicate when the value stored
under the attribute key `<scope>-<attribute>` equals the predicate's value. -/
def FilterPredicate.Holds (f : FilterPredicate) (d : Doc) : Bool :=
  eqMatch d (attrValuePath f.scope f.attr) f.value

/-- Modelled on the spec: a device is found when it passes every predicate and,
when the search lists ids, its id is listed. -/
def SearchParams.Selects (p : SearchParams) (d : Doc) : Bool :=
  p.filters.all (·.Holds d) && (p.deviceIDs.isEmpty || p.deviceIDs.contains d.id)

/-- Modelled on the spec: the sort entries in their listed order, the first the most
significant, each going up unless its order is "desc". -/
def SearchParams.listedKeys (p : SearchParams) : List (Path × Bool) :=
  p.sort.map fun s => (attrValuePath s.scope s.attr, s.order != "desc")

/-! ### The compiled filter -/

theorem searchFilter_check {f : FilterPredicate} (h : f.type = "$eq") :
    (searchFilter f).check = .ok () := by
  simp [searchFilter, Query.check, knownOperator, h]

theorem searchFilter_matches {f : FilterPredicate} (h : f.type = "$eq") (d : Doc) :
    (searchFilter f).matches d = f.Holds d := by
  simp [searchFilter, Query.matches, FilterPredicate.Holds, h, fieldPath_valueField]

/-- A `$and` of a list, or `{}` for the empty list, checks as the list does. -/
theorem conjunction_check {qs : List Query} (h : ∀ q ∈ qs, q.check = .ok ()) :
    (if qs.length > 0 then Query.and qs else .all).check = .ok () := by
  split_ifs with hl
  · simp only [Query.check, List.isEmpty_iff, List.ne_nil_of_length_pos hl, ite_false]
    exact Query.checkAll_eq_ok.mpr h
  · rfl

/-- A `$and` of a list, or `{}` for the empty list, passes what every filter of the
list passes. -/
theorem conjunction_matches (qs : List Query) (d : Doc) :
    (if qs.length > 0 then Query.and qs else .all).matches d = qs.all (·.matches d) := by
  split_ifs with hl
  · exact Query.matches_and d qs
  · simp [List.length_eq_zero.mp (Nat.eq_zero_of_not_pos hl), Query.matches]

theorem searchQuery_check {p : SearchParams} (heq : ∀ f ∈ p.filters, f.type = "$eq") :
    (searchQuery p).check = .ok () := by
  refine conjunction_check fun q hq => ?_
  rcases List.mem_append.mp hq with hq | hq
  · obtain ⟨f, hf, rfl⟩ := List.mem_map.mp hq
    exact searchFilter_check (heq f hf)
  · split_ifs at hq
    · rw [List.mem_singleton.mp hq]; rfl
    · exact absurd hq (List.not_mem_nil _)

/-- **The compiled filter selects exactly the devices the spec finds.** -/
theorem searchQuery_matches {p : SearchParams} (heq : ∀ f ∈ p.filters, f.type = "$eq") (d : Doc) :
    (searchQuery p).matches d = p.Selects d := by
  have hfilters : (p.filters.map searchFilter).all (·.matches d) = p.filters.all (·.Holds d) := by
    rw [Bool.eq_iff_iff, List.all_eq_true, List.all_eq_true, List.forall_mem_map]
    exact forall₂_congr fun f hf => by rw [searchFilter_matches (heq f hf)]
  have hids : (if p.deviceIDs.length > 0 then [Query.idIn p.deviceIDs] else []).all (·.matches d) =
      (p.deviceIDs.isEmpty || p.deviceIDs.contains d.id) := by
    cases p.deviceIDs <;> simp [Query.matches]
  simp only [searchQuery, conjunction_matches, List.all_append, hfilters, hids, SearchParams.Selects]

/-! ### The sort document -/

theorem sortSet_orders {m : List (String × Int)} (hm : ∀ kv ∈ m, kv.2 = 1 ∨ kv.2 = -1) {k : String}
    {v : Int} (hv : v = 1 ∨ v = -1) : ∀ kv ∈ sortSet m k v, kv.2 = 1 ∨ kv.2 = -1 := by
  intro kv hkv
  rcases List.mem_append.mp hkv with hkv | hkv
  · exact hm kv (List.mem_filter.mp hkv).1
  · rw [List.mem_singleton.mp hkv]; exact hv

/-- **Every order the sort document holds is `1` or `-1`.** -/
theorem searchSort_orders (p : SearchParams) : ∀ kv ∈ searchSort p, kv.2 = 1 ∨ kv.2 = -1 :=
  List.foldlRecOn (motive := fun m : List (String × Int) => ∀ kv ∈ m, kv.2 = 1 ∨ kv.2 = -1) p.sort _ _
    (fun _ h => absurd h (List.not_mem_nil _)) fun _ hm (s : SortCriteria) _ => by
      have h1 := sortSet_orders hm (k := dbDevAttributes ++ "." ++ (s.scope ++ "-" ++ s.attr) ++
        "." ++ dbDevAttributesValue) (.inl rfl)
      dsimp only
      split_ifs
      · exact sortSet_orders h1 (.inr rfl)
      · exact h1

theorem searchOptions_orders (iter : MapOrder) (p : SearchParams) :
    ∀ kv ∈ (searchOptions iter p).sort, kv.2 = 1 ∨ kv.2 = -1 := by
  intro kv hkv
  simp only [searchOptions] at hkv
  split_ifs at hkv
  · exact searchSort_orders p kv ((iter.perm _).subset hkv)
  · exact absurd hkv (List.not_mem_nil _)

/-- **With one sort entry at most, the map's order does not matter**: the server
sorts on the keys as listed. -/
theorem searchOptions_keys_of_single (iter : MapOrder) {p : SearchParams} (h : p.sort.length ≤ 1) :
    sortKeys (searchOptions iter p).sort = p.listedKeys := by
  match hs : p.sort, h with
  | [], _ => simp [searchOptions, hs, sortKeys, SearchParams.listedKeys]
  | [s], _ =>
      have hsort : searchSort p = [(dbDevAttributes ++ "." ++ (s.scope ++ "-" ++ s.attr) ++ "." ++
          dbDevAttributesValue, if s.order = "desc" then -1 else 1)] := by
        by_cases hd : s.order = "desc" <;> simp [searchSort, hs, sortSet, hd]
      simp only [searchOptions, hs, List.length_singleton, Nat.lt_irrefl, Nat.one_pos, gt_iff_lt,
        ite_true, hsort, List.perm_singleton.mp (iter.perm _), sortKeys, SearchParams.listedKeys,
        List.map_cons, List.map_nil]
      by_cases hd : s.order = "desc" <;> simp [hd, fieldPath_valueField]

/-! ### The skip -/

/-- **The skip is the exact product wrapped into Go's `int`**, for a page from `1` on. -/
theorem searchSkip_eq {p : SearchParams} (hpage : 1 ≤ p.page) :
    searchSkip p = goWrap ((p.page - 1) * p.perPage) := by
  have := p.page_goInt
  rw [searchSkip, goWrap_of_goInt (x := p.page - 1) (by unfold GoInt at *; omega)]

/-! ### What the search returns -/

/-- **`SearchDevices` on a store that does not fail**, for a non-negative skip: the
matches sorted on the sort keys in the order the map hands them out, from the skip
on, `PerPage` of them, with the number of all matches. -/
theorem searchDevices_healthy (iter : MapOrder) (c : Collection) {p : SearchParams}
    (hper : 1 ≤ p.perPage) (heq : ∀ f ∈ p.filters, f.type = "$eq") (hskip : 0 ≤ searchSkip p) :
    searchDevices .healthy iter c p =
      .ok ((((sortDocs (sortKeys (searchOptions iter p).sort) (c.docs.filter p.Selects)).drop
        (searchSkip p).toNat).take p.perPage.toNat, (c.docs.filter p.Selects).length)) := by
  have hsel : select c.docs (searchQuery p) = c.docs.filter p.Selects := by
    unfold select; congr 1; funext d; exact searchQuery_matches heq d
  simp only [searchDevices, find_healthy (searchQuery_check heq) hskip (searchOptions_orders iter p)
    (show 0 < (searchOptions iter p).limit by simp only [searchOptions]; omega),
    Cursor.all_healthy, countDocuments_healthy (searchQuery_check heq), hsel]
  rfl

/-- A negative skip makes the search fail on a store that does not fail. -/
theorem searchDevices_negative_skip (iter : MapOrder) (c : Collection) {p : SearchParams}
    (heq : ∀ f ∈ p.filters, f.type = "$eq") (hskip : searchSkip p < 0) :
    searchDevices .healthy iter c p =
      .error (.error (.wrap "failed to search devices" (.mongo (.badStage "skip")))) := by
  simp only [searchDevices, find_negative_skip (Backend.healthy_fails _) (searchQuery_check heq)
    (show (searchOptions iter p).skip < 0 from hskip)]

/-- With no sort key, the server keeps the matches in natural order. -/
theorem sortDocs_nil (ds : List Doc) : sortDocs [] ds = ds :=
  List.Sorted.insertionSort_eq (List.pairwise_of_forall fun _ _ => rfl)

/-- The search predicate of a listing filter: the same attribute and value, under the
operator's name on the server. -/
def Filter.predicate (f : Filter) : FilterPredicate :=
  ⟨f.attrScope, f.attrName, mongoOperator f.operator, f.value⟩

theorem Filter.predicate_holds {f : Filter} (hf : f.valueFloat = none) (d : Doc) :
    f.predicate.Holds d = f.Holds d := by
  simp [Filter.predicate, FilterPredicate.Holds, Filter.Holds, hf]

/-- **`SearchDevices` and `GetDevices` list alike**: on a store that does not fail,
a search of page `Page` of `PerPage` devices, with the equality predicates of a
list of filters and no sort and no ids, returns what `GetDevices` returns for the
same filters with the skip `(Page - 1) * PerPage` and the limit `PerPage`, when
that skip fits Go's `int`: the same page of matches in natural order, and the
same count. -/
theorem searchDevices_eq_getDevices (iter : MapOrder) (c : Collection) {fs : List Filter}
    {page perPage : Int} (hp : GoInt page) (hpp : GoInt perPage) (hpage : 1 ≤ page)
    (hper : 1 ≤ perPage) (hfit : (page - 1) * perPage < 9223372036854775808)
    (heq : ∀ f ∈ fs, f.operator = .eq ∧ f.valueFloat = none) :
    searchDevices .healthy iter c ⟨page, perPage, fs.map Filter.predicate, [], [], hp, hpp⟩ =
      getDevices .healthy c ⟨(page - 1) * perPage, perPage, fs, none, none, ""⟩ := by
  have hnonneg : 0 ≤ (page - 1) * perPage := Int.mul_nonneg (by omega) (by omega)
  have hskip : searchSkip ⟨page, perPage, fs.map Filter.predicate, [], [], hp, hpp⟩ =
      (page - 1) * perPage := by
    rw [searchSkip_eq hpage, goWrap_of_goInt ⟨by omega, hfit⟩]
  have htype : ∀ g ∈ fs.map Filter.predicate, g.type = "$eq" := by
    simp only [List.mem_map]
    rintro _ ⟨f, hf, rfl⟩
    simp [Filter.predicate, (heq f hf).1, mongoOperator]
  have hsel : (⟨page, perPage, fs.map Filter.predicate, [], [], hp, hpp⟩ : SearchParams).Selects =
      (⟨(page - 1) * perPage, perPage, fs, none, none, ""⟩ : ListQuery).Selects := by
    funext d
    simp only [SearchParams.Selects, ListQuery.Selects, List.isEmpty_nil,
      Bool.true_or, Bool.and_true, beq_self_eq_true, Option.all_none, Bool.true_and]
    rw [Bool.eq_iff_iff, List.all_eq_true, List.all_eq_true, List.forall_mem_map]
    exact forall₂_congr fun f hf => by rw [Filter.predicate_holds (heq f hf).2]
  rw [searchDevices_healthy iter c hper htype (hskip ▸ hnonneg),
    getDevices_healthy hnonneg fun f hf => (heq f hf).1, hskip, hsel]
  simp [searchOptions, sortKeys, sortDocs_nil, paginate, arrange, show 0 < perPage by omega]

/-- The first page of two devices whose `mac` is `00:11`, on a store holding one. -/
theorem searchDevices_eq_getDevices_mac :
    GoInt 1 ∧ GoInt 2 ∧ (1 : Int) ≤ 1 ∧ (1 : Int) ≤ 2 ∧ ((1 : Int) - 1) * 2 < 9223372036854775808 ∧
    (∀ f ∈ [(⟨"mac", attrScopeInventory, .leaf (.scalar (.str "00:11")), none, .eq⟩ : Filter)],
      f.operator = .eq ∧ f.valueFloat = none) ∧
    searchDevices .healthy .assigned
        (upsertAttributes .healthy 0 Collection.empty "a" [⟨"mac", none, some (.scalar (.str "00:11")), ""⟩]).2
        ⟨1, 2, [(⟨"mac", attrScopeInventory, .leaf (.scalar (.str "00:11")), none, .eq⟩ : Filter)].map
          Filter.predicate, [], [], by decide, by decide⟩ =
      getDevices .healthy
        (upsertAttributes .healthy 0 Collection.empty "a" [⟨"mac", none, some (.scalar (.str "00:11")), ""⟩]).2
        ⟨(1 - 1) * 2, 2, [⟨"mac", attrScopeInventory, .leaf (.scalar (.str "00:11")), none, .eq⟩], none,
          none, ""⟩ :=
  ⟨by decide, by decide, by decide, by decide, by decide, by decide,
    searchDevices_eq_getDevices .assigned _ (by decide) (by decide) (by decide) (by decide) (by decide)
      (by decide)⟩

/-- **Go's map order decides which of two devices comes first**: sorted on `x` then
`y`, the device `a` (`x = 1`, `y = 2`) is listed first when Go hands the two sort
keys out as assigned, and `b` (`x = 2`, `y = 1`) when it hands them out in
reverse. -/
theorem searchDevices_map_order :
    (searchDevices .healthy .assigned
      (upsertAttributes .healthy 0 (upsertAttributes .healthy 0 Collection.empty "a"
        [⟨"x", none, some (.scalar (.num 1)), ""⟩, ⟨"y", none, some (.scalar (.num 2)), ""⟩]).2 "b"
        [⟨"x", none, some (.scalar (.num 2)), ""⟩, ⟨"y", none, some (.scalar (.num 1)), ""⟩]).2
      ⟨1, 2, [], [⟨attrScopeInventory, "x", ""⟩, ⟨attrScopeInventory, "y", ""⟩], [], by decide,
        by decide⟩).map (fun r => (r.1.map Doc.id, r.2)) = .ok (["a", "b"], 2) ∧
    (searchDevices .healthy .reversed
      (upsertAttributes .healthy 0 (upsertAttributes .healthy 0 Collection.empty "a"
        [⟨"x", none, some (.scalar (.num 1)), ""⟩, ⟨"y", none, some (.scalar (.num 2)), ""⟩]).2 "b"
        [⟨"x", none, some (.scalar (.num 2)), ""⟩, ⟨"y", none, some (.scalar (.num 1)), ""⟩]).2
      ⟨1, 2, [], [⟨attrScopeInventory, "x", ""⟩, ⟨attrScopeInventory, "y", ""⟩], [], by decide,
        by decide⟩).map (fun r => (r.1.map Doc.id, r.2)) = .ok (["b", "a"], 2) := by
  rw [searchDevices_healthy .assigned _ (by decide) (by decide) (by decide),
    searchDevices_healthy .reversed _ (by decide) (by decide) (by decide)]
  decide

/-- **The skip wraps**: page `2^62 + 1` of four devices a page starts at device
`2^64`, past every device, but Go's `int` makes the skip `0` and the search returns
the first page. -/
theorem searchDevices_skip_wraps :
    ((4611686018427387905 : Int) - 1) * 4 = 18446744073709551616 ∧
    searchSkip ⟨4611686018427387905, 4, [], [], [], by decide, by decide⟩ = 0 ∧
    (searchDevices .healthy .assigned (upsertAttributes .healthy 0 Collection.empty "a" []).2
      ⟨4611686018427387905, 4, [], [], [], by decide, by decide⟩).map
        (fun r => (r.1.map Doc.id, r.2)) = .ok (["a"], 1) := by
  refine ⟨by decide, by decide, ?_⟩
  rw [searchDevices_healthy .assigned _ (by decide) (by decide) (by decide)]
  decide

/-! ### Listings and lookups -/

theorem arrange_perm (q : ListQuery) (ds : List Doc) : (arrange q ds).Perm ds := by
  unfold arrange; split
  · exact List.mergeSort_perm _ _
  · rfl

theorem paginate_sublist (skip limit : Int) (ds : List Doc) : (paginate skip limit ds).Sublist ds := by
  unfold paginate; split
  · exact (List.take_sublist _ _).trans (List.drop_sublist _ _)
  · exact List.drop_sublist _ _

/-- A page cut from an arrangement of some of the collection's documents holds
distinct devices, each the document `GetDevice` finds for its id. -/
theorem lookups_of_page {c : Collection} {page arr ds : List Doc} (h₁ : page.Sublist arr) (h₂ : arr.Perm ds)
    (h₃ : ds.Sublist c.docs) :
    (page.map Doc.id).Nodup ∧ ∀ d ∈ page, d.id ≠ nilDeviceID → getDevice .healthy c d.id = .ok (some d) :=
  ⟨(h₁.map Doc.id).nodup ((h₂.map Doc.id).nodup_iff.mpr ((h₃.map Doc.id).nodup c.nodup)),
    fun d hd hid => by
      rw [getDevice_healthy c hid, Collection.find?_eq_some_iff.mpr ⟨h₃.subset (h₂.subset (h₁.subset hd)), rfl⟩]⟩

end DeviceInventory
