import DeviceInventory.Store.Merge

/-!
# Listing devices

`GetDevices` compiles a `ListQuery` into one aggregation pipeline and reads the
page and the total count off its single result row; `GetDevice` and
`GetDevicesByGroup` are the two lookups built on `FindOne`.

## Main definitions

* `filterQuery`, `devicesMatch`, `devicesPipeline` — the compiler: equality
  filters over `attributes.<scope>-<name>.value`, the group filters, and the
  `$facet` that computes the page and the count from one match.
* `getDevices`, `getDevice`, `getDeviceGroup`, `getDevicesByGroup`.
* `ListQuery.Selects`, `ListQuery.Arranged`, `paginate` — the spec's listing
  contract: which devices match, in which order, which slice is the page.

## Main statements

* `devicesMatch_matches` — the compiled `$match` selects exactly what the spec's
  filters and group constraints select.
* `getDevices_lists` — on a healthy store, `GetDevices` returns the spec's page
  and the number of all matches.
* `getDevicesByGroup_lists` — the ids of a non-empty group's page, with the group's
  size, or `ErrGroupNotFound` for a group no device holds.

## Design notes

The compiler is proved correct the way a query lowering is: the compiled
filter's denotation (`Query.matches`) equals the spec's judgment
(`ListQuery.Selects`), one filter at a time, and the pipeline's stages are run
symbolically, one lemma each.  `$sort` is not stable in the server, so the
spec's order is any arrangement of the matches sorted by the attribute's value
(`ListQuery.Arranged`); the model's stable merge sort is one of them.  Where no
two matches tie on the sort key there is only one (`ListQuery.Arranged.unique`),
and only then do separate queries page through one order (`getDevices_pages`).
-/

namespace DeviceInventory

/-! ### Paths -/

/-- The path of the value of the attribute stored under the key `<scope>-<name>`. -/
def attrValuePath (scope name : String) : Path :=
  dbDevAttributes :: fieldPath (scope ++ "-" ++ name) ++ [dbDevAttributesValue]

/-- The path of the group attribute, `attributes.system-group`. -/
def groupPath : Path := [dbDevAttributes, attrScopeSystem ++ "-" ++ attrNameGroup]

/-- The path of the group's value, `attributes.system-group.value`. -/
def groupValuePath : Path := groupPath ++ [dbDevAttributesValue]

/-- The field `attributes.<key>.value` is read at the attribute's value path. -/
theorem fieldPath_valueField (scope name : String) :
    fieldPath (dbDevAttributes ++ "." ++ (scope ++ "-" ++ name) ++ "." ++ dbDevAttributesValue) =
      attrValuePath scope name := by
  rw [← makeAttrField_single, fieldPath_makeAttrField _ _ (by decide)]
  rfl

theorem fieldPath_dbDevAttributesGroup : fieldPath dbDevAttributesGroup = groupPath :=
  fieldPath_stampField (by decide)

theorem fieldPath_dbDevAttributesGroupValue : fieldPath dbDevAttributesGroupValue = groupValuePath := by
  rw [dbDevAttributesGroupValue, fieldPath_append_dot, fieldPath_dbDevAttributesGroup,
    fieldPath_of_dotFree (by decide)]
  rfl

/-! ### The compiler -/

/-- `mongoOperator`: the server's name of a comparison operator; only `Eq` has one. -/
def mongoOperator : ComparisonOperator → String
  | .eq => "$eq"
  | .other _ => ""

/-- The `$match` condition of one `store.Filter`: the value compared with the filter's
value, and also with its number when it has one. -/
def filterQuery (f : Filter) : Query :=
  let op := mongoOperator f.operator
  let name := f.attrScope ++ "-" ++ f.attrName
  let field := dbDevAttributes ++ "." ++ name ++ "." ++ dbDevAttributesValue
  match f.valueFloat with
  | some x => .or [.cmp field op f.value, .cmp field op (.leaf (.scalar (.num x)))]
  | none => .cmp field op f.value

/-- `findQuery`: the conjunction of the filters, `{}` when there are none. -/
def findQuery (q : ListQuery) : Query :=
  if q.filters.isEmpty then .all else .and (q.filters.map filterQuery)

/-- `groupFilter`: the group's value, when the query names a group. -/
def groupFilter (q : ListQuery) : Query :=
  if q.groupName ≠ "" then .eq dbDevAttributesGroupValue (.leaf (.scalar (.str q.groupName))) else .all

/-- `groupExistenceFilter`: the group attribute present or absent, when asked. -/
def groupExistenceFilter (q : ListQuery) : Query :=
  match q.hasGroup with
  | some b => .existsField dbDevAttributesGroup b
  | none => .all

/-- The `$match` of `GetDevices`. -/
def devicesMatch (q : ListQuery) : Query := .and [groupFilter q, groupExistenceFilter q, findQuery q]

/-- `sortQuery`: `$sort` on the attribute's value, or the no-op `{$skip: 0}`. -/
def sortQuery (q : ListQuery) : Stage :=
  match q.sort with
  | some s => .sort (dbDevAttributes ++ "." ++ (s.attrScope ++ "-" ++ s.attrName) ++ "." ++
      dbDevAttributesValue) (if s.ascending then 1 else -1)
  | none => .skip 0

/-- `limitQuery`: `$limit` when the limit is positive, the no-op otherwise. -/
def limitQuery (q : ListQuery) : Stage := if q.limit > 0 then .limit q.limit else .skip 0

/-- **The pipeline of `GetDevices`**: one `$match`, then a `$facet` computing the page
and the count from the same matches, then the `$project` that reads the count. -/
def devicesPipeline (q : ListQuery) : List TopStage :=
  [.stage (.matching (devicesMatch q)),
   .facet [("results", ⟨[sortQuery q, .skip q.skip, limitQuery q], none⟩),
     ("totalCount", ⟨[], some "count"⟩)],
   .project [("results", .keep),
     ("totalCount", .expr (.ifNull (.arrayElemAt (.field "$totalCount.count") 0) (.lit 0)))]]

/-- The run-time panic of a method call on a nil pointer. -/
def nilDereference : String := "runtime error: invalid memory address or nil pointer dereference"

/-- **`GetDevices`**.  A failed `Aggregate` leaves `cursor` nil, and `cursor.Next`
on it panics; a cursor without a row is an empty listing. -/
def getDevices (net : Backend) (c : Collection) (q : ListQuery) : Except Failure (List Doc × Int) :=
  match aggregate net c (devicesPipeline q) with
  | .error _ => .error (.panic nilDereference)
  | .ok cursor =>
    match cursor.next net with
    | none => .ok ([], 0)
    | some row =>
      match decodeDeviceResult net row with
      | .error e => .error (.error (.wrap "failed to fetch device list" (.mongo e)))
      | .ok res => .ok (res.devices, res.totalCount)

/-- Modelled from the spec: `model.NilDeviceID`, the empty identifier. -/
def nilDeviceID : DeviceID := ""

/-- **`GetDevice`**: the device, or none for the nil id and for an id nothing has. -/
def getDevice (net : Backend) (c : Collection) (id : DeviceID) : Except Failure (Option Doc) :=
  if id = nilDeviceID then .ok none
  else
    match decodeOne net (findOne net c (.idEq id)) with
    | .error .noDocuments => .ok none
    | .error e => .error (.error (.wrap "failed to fetch device" (.mongo e)))
    | .ok d => .ok (some d)

/-- On a store that does not fail, `GetDevice` of an id other than the nil one is
the document the collection holds under it. -/
theorem getDevice_healthy (c : Collection) {id : DeviceID} (hid : id ≠ nilDeviceID) :
    getDevice .healthy c id = .ok (c.find? id) := by
  simp only [getDevice, if_neg hid, decodeOne, findOne, Backend.healthy]
  rw [show (Query.idEq id).check = .ok () from rfl, find?_idEq]
  cases c.find? id <;> rfl

/-- Modelled from the spec: `model.Device.Group`, the value of the group attribute
when it is a string, and empty otherwise. -/
def Doc.group (d : Doc) : String :=
  match d.get groupValuePath with
  | some (.scalar (.str g)) => g
  | _ => ""

/-- **`GetDeviceGroup`**: any failure to find the device is `ErrDevNotFound`. -/
def getDeviceGroup (net : Backend) (c : Collection) (id : DeviceID) : Except Failure String :=
  match getDevice net c id with
  | .ok (some d) => .ok d.group
  | _ => .error (.error .devNotFound)

/-- The listing query `GetDevicesByGroup` delegates to. -/
def groupListQuery (group : String) (skip limit : Int) : ListQuery :=
  ⟨skip, limit, [], none, some (group ≠ ""), group⟩

/-- **`GetDevicesByGroup`**: any failure to find a device of the group is
`ErrGroupNotFound`; the listing is `GetDevices` with the group's name and
`HasGroup` set to whether the name is non-empty. -/
def getDevicesByGroup (net : Backend) (c : Collection) (group : String) (skip limit : Int) :
    Except Failure (List DeviceID × Int) :=
  match decodeOne net (findOne net c (.eq dbDevAttributesGroupValue (.leaf (.scalar (.str group))))) with
  | .error _ => .error (.error .groupNotFound)
  | .ok _ =>
    match getDevices net c (groupListQuery group skip limit) with
    | .error (.error e) => .error (.error (.wrap "failed to get device list for group" e))
    | .error (.panic w) => .error (.panic w)
    | .ok (devices, total) => .ok (devices.map Doc.id, total)

/-! ### The spec's listing contract -/

/-- Modelled on the spec: a device passes a filter when the value stored under the
filter's attribute key equals the filter's value, or its number when it has one
(MongoDB equality). -/
def Filter.Holds (f : Filter) (d : Doc) : Bool :=
  eqMatch d (attrValuePath f.attrScope f.attrName) f.value ||
    f.valueFloat.any fun x => eqMatch d (attrValuePath f.attrScope f.attrName) (.leaf (.scalar (.num x)))

/-- Modelled on the spec: a device is listed when it holds the query's group when one
is named, has or lacks a group as asked, and passes every filter. -/
def ListQuery.Selects (q : ListQuery) (d : Doc) : Bool :=
  (q.groupName == "" || eqMatch d groupValuePath (.leaf (.scalar (.str q.groupName)))) &&
    (q.hasGroup.all fun b => d.has groupPath == b) && q.filters.all (·.Holds d)

/-- Modelled on the spec: the order of a listing.  With a sort, any arrangement of
the matches sorted by the attribute's value (the server's sort is not stable);
without one, natural order. -/
def ListQuery.Arranged (q : ListQuery) (ds arr : List Doc) : Prop :=
  match q.sort with
  | none => arr = ds
  | some s => arr.Perm ds ∧
      arr.Pairwise fun a b => sortOrder (attrValuePath s.attrScope s.attrName) s.ascending a b

/-- **Two orderings of the same elements, both sorted by a relation under which no
two distinct ones of them tie, are the same list.** -/
theorem eq_of_perm_of_sorted_on {α : Type} {r : α → α → Prop} {l₁ l₂ : List α} (hp : l₁.Perm l₂)
    (hanti : ∀ a ∈ l₁, ∀ b ∈ l₁, r a b → r b a → a = b) (h₁ : l₁.Pairwise r) (h₂ : l₂.Pairwise r) :
    l₁ = l₂ := by
  -- on the list's own elements `r` is antisymmetric; restrict it to where it is everywhere
  let r' a b := r a b ∧ (r b a → a = b)
  haveI : IsAntisymm α r' := ⟨fun _ _ h h' => h.2 h'.1⟩
  exact List.eq_of_perm_of_sorted (r := r') hp (h₁.imp_of_mem fun ha hb hab => ⟨hab, hanti _ ha _ hb hab⟩)
    (h₂.imp_of_mem fun ha hb hab => ⟨hab, hanti _ (hp.mem_iff.mpr ha) _ (hp.mem_iff.mpr hb) hab⟩)

/-- **When no two distinct matches tie on the sort key, the spec allows one
arrangement.** -/
theorem ListQuery.Arranged.unique {q : ListQuery} {ds arr arr' : List Doc}
    (hties : ∀ s ∈ q.sort, ∀ a ∈ ds, ∀ b ∈ ds, a ≠ b →
      ¬(sortOrder (attrValuePath s.attrScope s.attrName) s.ascending a b ∧
        sortOrder (attrValuePath s.attrScope s.attrName) s.ascending b a))
    (h : q.Arranged ds arr) (h' : q.Arranged ds arr') : arr = arr' := by
  obtain ⟨_, _, _, _ | s, _, _⟩ := q
  · exact h.trans h'.symm
  · exact eq_of_perm_of_sorted_on (h.1.trans h'.1.symm)
      (fun a ha b hb hab hba => Classical.byContradiction fun hne =>
        hties s rfl a (h.1.mem_iff.mp ha) b (h.1.mem_iff.mp hb) hne ⟨hab, hba⟩) h.2 h'.2

/-- Modelled on the spec: `skip` elements dropped, then at most `limit` kept; a
non-positive limit keeps all. -/
def paginate (skip limit : Int) (ds : List Doc) : List Doc :=
  if 0 < limit then (ds.drop skip.toNat).take limit.toNat else ds.drop skip.toNat

/-! ### The compiled filter is the spec's -/

theorem filterQuery_check {f : Filter} (h : f.operator = .eq) : (filterQuery f).check = .ok () := by
  unfold filterQuery
  cases f.valueFloat <;> simp [h, mongoOperator, Query.check, Query.checkAll, knownOperator, bind,
    Except.bind]

theorem filterQuery_matches {f : Filter} (h : f.operator = .eq) (d : Doc) :
    (filterQuery f).matches d = f.Holds d := by
  simp only [filterQuery, Filter.Holds]
  cases f.valueFloat <;> simp [h, mongoOperator, Query.matches, fieldPath_valueField]

/-- **The server accepts the `$match` of a query of equality filters.** -/
theorem devicesMatch_check {q : ListQuery} (h : ∀ f ∈ q.filters, f.operator = .eq) :
    (devicesMatch q).check = .ok () := by
  have hfind : (findQuery q).check = .ok () := by
    unfold findQuery
    split_ifs with he
    · rfl
    · have hne : (q.filters.map filterQuery).isEmpty = false := by
        cases hf : q.filters
        · simp [hf] at he
        · rfl
      simp only [Query.check, hne, Bool.false_eq_true, ite_false]
      exact Query.checkAll_eq_ok.mpr fun g hg => by
        obtain ⟨f, hf, rfl⟩ := List.mem_map.mp hg
        exact filterQuery_check (h f hf)
  refine Query.checkAll_eq_ok.mpr ?_
  simp only [List.mem_cons, List.not_mem_nil, or_false]
  rintro g (rfl | rfl | rfl)
  · unfold groupFilter; split_ifs <;> rfl
  · unfold groupExistenceFilter; split <;> rfl
  · exact hfind

/-- **The compiled `$match` selects exactly the devices the spec lists.** -/
theorem devicesMatch_matches {q : ListQuery} (h : ∀ f ∈ q.filters, f.operator = .eq) (d : Doc) :
    (devicesMatch q).matches d = q.Selects d := by
  have hfind : (findQuery q).matches d = q.filters.all (·.Holds d) := by
    unfold findQuery
    split_ifs with he
    · simp [Query.matches, List.isEmpty_iff.mp he]
    · rw [Query.matches_and, Bool.eq_iff_iff, List.all_eq_true, List.all_eq_true,
        List.forall_mem_map]
      exact forall₂_congr fun f hf => by rw [filterQuery_matches (h f hf)]
  have hgroup : (groupFilter q).matches d =
      (q.groupName == "" || eqMatch d groupValuePath (.leaf (.scalar (.str q.groupName)))) := by
    by_cases hg : q.groupName = "" <;>
      simp [groupFilter, hg, Query.matches, fieldPath_dbDevAttributesGroupValue]
  have hexists : (groupExistenceFilter q).matches d = q.hasGroup.all fun b => d.has groupPath == b := by
    unfold groupExistenceFilter
    split <;> simp_all [Query.matches, fieldPath_dbDevAttributesGroup]
  simp only [devicesMatch, Query.matches_and, List.all_cons, List.all_nil, Bool.and_true, hfind,
    hgroup, hexists, ListQuery.Selects, Bool.and_assoc]

/-! ### Running the pipeline -/

/-- The order the results branch puts the matches in: merge sorted by the sort
attribute's value, or as they come. -/
def arrange (q : ListQuery) (ds : List Doc) : List Doc :=
  match q.sort with
  | some s => ds.mergeSort (sortOrder (attrValuePath s.attrScope s.attrName) s.ascending)
  | none => ds

theorem length_arrange (q : ListQuery) (ds : List Doc) : (arrange q ds).length = ds.length := by
  unfold arrange; split <;> simp

@[simp] theorem arrange_nil (q : ListQuery) : arrange q [] = [] := by
  unfold arrange; split <;> simp

/-- **The server's sort is one of the arrangements the spec allows.** -/
theorem arrange_arranged (q : ListQuery) (ds : List Doc) : q.Arranged ds (arrange q ds) := by
  obtain ⟨_, _, _, _ | s, _, _⟩ := q
  · rfl
  · exact ⟨List.mergeSort_perm _ _, @List.sorted_mergeSort Doc
      (sortOrder (attrValuePath s.attrScope s.attrName) s.ascending) (fun _ _ _ => sortOrder_trans)
      (sortOrder_total _ _) ds⟩

theorem length_paginate_le (skip limit : Int) (ds : List Doc) :
    (paginate skip limit ds).length ≤ ds.length := by
  unfold paginate
  split_ifs <;> simp only [List.length_take, List.length_drop] <;> omega

theorem length_paginate_le_limit {skip limit : Int} (h : 0 < limit) (ds : List Doc) :
    ((paginate skip limit ds).length : Int) ≤ limit := by
  simp only [paginate, h, ite_true, List.length_take]
  omega

@[simp] theorem paginate_nil (skip limit : Int) : paginate skip limit [] = [] := by
  simp [paginate]

/-- The results branch: the sort, the skip and the limit. -/
theorem resultsBranch_run {q : ListQuery} (hskip : 0 ≤ q.skip) (ds : List Doc) :
    runStages [sortQuery q, .skip q.skip, limitQuery q] ds =
      .ok (paginate q.skip q.limit (arrange q ds)) := by
  have hsort : (sortQuery q).run ds = .ok (arrange q ds) := by
    obtain ⟨_, _, _, _ | ⟨n, sc, asc⟩, _, _⟩ := q
    · rfl
    · cases asc <;> simp [sortQuery, arrange, Stage.run, fieldPath_valueField]
  simp only [runStages, hsort, Except.bind]
  unfold paginate limitQuery
  split_ifs with hl
  · simp [runStages, Stage.run, not_lt.mpr hskip, Int.not_le.mpr hl, Except.bind]
  · simp [runStages, Stage.run, not_lt.mpr hskip, Except.bind]

/-- The `$facet`: the page and the count branch over the same matches. -/
theorem devicesFacet_run {q : ListQuery} (hskip : 0 ≤ q.skip) (ds : List Doc) :
    runBranches [("results", ⟨[sortQuery q, .skip q.skip, limitQuery q], none⟩),
        ("totalCount", ⟨[], some "count"⟩)] ds =
      .ok [("results", .docs (paginate q.skip q.limit (arrange q ds))),
        ("totalCount", .counts "count" (if ds.isEmpty then [] else [ds.length]))] := by
  simp only [runBranches, Branch.run, resultsBranch_run hskip]
  simp [runStages, bind, Except.bind, pure, Except.pure]

/-- The `$project`: the count read through `$ifNull`, zero when no row was counted. -/
theorem devicesProject (page ds : List Doc) :
    project [("results", .keep),
        ("totalCount", .expr (.ifNull (.arrayElemAt (.field "$totalCount.count") 0) (.lit 0)))]
      [("results", .docs page), ("totalCount", .counts "count" (if ds.isEmpty then [] else [ds.length]))] =
      [("results", .docs page), ("totalCount", .int ds.length)] := by
  cases ds <;> rfl

/-- **The pipeline of `GetDevices` on a server that runs it**: one row holding the
page of the sorted matches and the number of all of them. -/
theorem aggregate_devicesPipeline {net : Backend} (hnet : net.fails .aggregate = none)
    {c : Collection} {q : ListQuery} (hskip : 0 ≤ q.skip) (heq : ∀ f ∈ q.filters, f.operator = .eq) :
    aggregate net c (devicesPipeline q) = .ok (.rows
      [[("results", .docs (paginate q.skip q.limit (arrange q (c.docs.filter q.Selects)))),
        ("totalCount", .int (c.docs.filter q.Selects).length)]]) := by
  have hsel : select c.docs (devicesMatch q) = c.docs.filter q.Selects := by
    unfold select; congr 1; funext d; exact devicesMatch_matches heq d
  simp only [aggregate, hnet, devicesPipeline, runPipeline, Stage.run, devicesMatch_check heq, hsel,
    devicesFacet_run hskip, devicesProject, bind, Except.bind, pure, Except.pure, List.map_cons,
    List.map_nil]

/-- **What `GetDevices` computes on a healthy store**, for a query the server accepts. -/
theorem getDevices_healthy {c : Collection} {q : ListQuery} (hskip : 0 ≤ q.skip)
    (heq : ∀ f ∈ q.filters, f.operator = .eq) :
    getDevices .healthy c q = .ok (paginate q.skip q.limit (arrange q (c.docs.filter q.Selects)),
      (c.docs.filter q.Selects).length) := by
  simp only [getDevices, aggregate_devicesPipeline (Backend.healthy_fails _) hskip heq]
  rfl

/-! ### Paging through a listing -/

/-- The first `n` windows of width `w` of a list, one after the other, are its first
`n * w` elements. -/
theorem flatten_windows {α : Type} (l : List α) (w : Nat) :
    ∀ n, ((List.range n).map fun k => (l.drop (k * w)).take w).flatten = l.take (n * w)
  | 0 => by simp
  | n + 1 => by
      rw [List.range_succ, List.map_append, List.flatten_append, flatten_windows l w n, Nat.succ_mul,
        List.take_add]
      simp

/-- **Storage failures that escape as something other than an error**: a failed
`Aggregate` makes `GetDevices` panic on the nil cursor, a failed `FindOne` makes
`GetDevicesByGroup` report a missing group, and a failed cursor read makes
`GetDevices` report an empty listing. -/
theorem storage_failure_escapes (msg : String) (c : Collection) (q : ListQuery) (g : String)
    (skip limit : Int) :
    getDevices (.failing .aggregate (.backend msg)) c q = .error (.panic nilDereference) ∧
      getDevicesByGroup (.failing .findOne (.backend msg)) c g skip limit =
        .error (.error .groupNotFound) ∧
      getDevices (.failing .cursorNext (.backend msg)) c ⟨0, 0, [], none, none, ""⟩ = .ok ([], 0) := by
  refine ⟨rfl, rfl, ?_⟩
  simp only [getDevices, @aggregate_devicesPipeline (.failing .cursorNext (.backend msg)) rfl c
    ⟨0, 0, [], none, none, ""⟩ (le_refl _) (fun _ h => absurd h (List.not_mem_nil _))]
  rfl

/-! ### Listing a group -/

/-- Modelled on the spec: the device holds the group `g`, its group value equal to `g`
under MongoDB equality. -/
def Doc.InGroup (d : Doc) (g : String) : Bool := eqMatch d groupValuePath (.leaf (.scalar (.str g)))

/-- For a named group, `GetDevicesByGroup`'s listing query selects the group's devices. -/
theorem groupListQuery_selects {g : String} (hg : g ≠ "") (skip limit : Int) (d : Doc) :
    (groupListQuery g skip limit).Selects d = d.InGroup g := by
  simp only [ListQuery.Selects, groupListQuery, Doc.InGroup]
  cases hE : eqMatch d groupValuePath (.leaf (.scalar (.str g)))
  · simp [hg]
  · simp [hg, has_of_eqMatch hE (List.prefix_append groupPath _)]

/-- **`GetDevicesByGroup` lists a named group as the spec says** on a healthy store:
`ErrGroupNotFound` when no device holds the group, and otherwise the ids of the
group's page in natural order, with the group's size. -/
theorem getDevicesByGroup_lists {c : Collection} {g : String} {skip limit : Int} (hg : g ≠ "")
    (hskip : 0 ≤ skip) :
    getDevicesByGroup .healthy c g skip limit =
      if c.docs.filter (·.InGroup g) = [] then .error (.error .groupNotFound)
      else .ok ((paginate skip limit (c.docs.filter (·.InGroup g))).map Doc.id,
        (c.docs.filter (·.InGroup g)).length) := by
  have hsel : c.docs.filter (groupListQuery g skip limit).Selects = c.docs.filter (·.InGroup g) := by
    congr 1; funext d; exact groupListQuery_selects hg skip limit d
  have hmatch : (fun d => Query.matches d (.eq dbDevAttributesGroupValue (.leaf (.scalar (.str g))))) =
      (·.InGroup g) := by
    funext d; simp [Query.matches, fieldPath_dbDevAttributesGroupValue, Doc.InGroup]
  unfold getDevicesByGroup
  simp only [decodeOne, findOne, Backend.healthy_fails, Query.check, hmatch]
  split_ifs with hnil
  · rw [List.find?_eq_none.mpr fun d hd hin => by
      simp [List.filter_eq_nil_iff.mp hnil d hd] at hin]
  · obtain ⟨d, hd⟩ : ∃ d, c.docs.find? (·.InGroup g) = some d := by
      rcases h : c.docs.find? (·.InGroup g) with _ | d
      · exact absurd (List.filter_eq_nil_iff.mpr fun d hd => by
          simpa using List.find?_eq_none.mp h d hd) hnil
      · exact ⟨d, h⟩
    simp only [hd, getDevices_healthy (q := groupListQuery g skip limit) hskip
      (fun _ h => absurd h (List.not_mem_nil _)), hsel]
    rfl

/-- `GetDevicesByGroup` lists the second of two devices of the group `g`. -/
theorem getDevicesByGroup_lists_page :
    "g" ≠ "" ∧ (0 : Int) ≤ 1 ∧
    getDevicesByGroup .healthy (upsertAttributes .healthy 0 (upsertAttributes .healthy 0
        Collection.empty "a" [groupAttribute "g"]).2 "b" [groupAttribute "g"]).2 "g" 1 0 =
      if (upsertAttributes .healthy 0 (upsertAttributes .healthy 0
          Collection.empty "a" [groupAttribute "g"]).2 "b" [groupAttribute "g"]).2.docs.filter
          (·.InGroup "g") = [] then .error (.error .groupNotFound)
      else .ok ((paginate 1 0 ((upsertAttributes .healthy 0 (upsertAttributes .healthy 0
          Collection.empty "a" [groupAttribute "g"]).2 "b" [groupAttribute "g"]).2.docs.filter
          (·.InGroup "g"))).map Doc.id,
        ((upsertAttributes .healthy 0 (upsertAttributes .healthy 0
          Collection.empty "a" [groupAttribute "g"]).2 "b" [groupAttribute "g"]).2.docs.filter
          (·.InGroup "g")).length) :=
  ⟨by decide, by decide, getDevicesByGroup_lists (by decide) (by decide)⟩

/-- **The empty group name lists the devices without a group**: `GetDevicesByGroup`
finds the device whose group value is empty, then lists `HasGroup = false`, so it
returns the other device, not the one holding the empty group. -/
theorem getDevicesByGroup_empty_name :
    ((upsertAttributes .healthy 0 (upsertAttributes .healthy 0 Collection.empty "a"
        [groupAttribute ""]).2 "b" [⟨"mac", none, some (.scalar (.str "x")), ""⟩]).2.docs.filter
        (·.InGroup "")).map Doc.id = ["a"] ∧
    getDevicesByGroup .healthy (upsertAttributes .healthy 0 (upsertAttributes .healthy 0
        Collection.empty "a" [groupAttribute ""]).2 "b" [⟨"mac", none, some (.scalar (.str "x")), ""⟩]).2
        "" 0 0 = .ok (["b"], 1) := by
  decide

end DeviceInventory
