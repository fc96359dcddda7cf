import DeviceInventory.Mongo.Collection

/-!
# Aggregation pipelines

The fragment of the aggregation framework `GetDevices` builds its single
round trip from:

```
[ {$match: …},
  {$facet: {results: [<sort or no-op>, {$skip: n}, <limit or no-op>],
            totalCount: [{$count: "count"}]}},
  {$project: {results: 1,
              totalCount: {$ifNull: [{$arrayElemAt: ["$totalCount.count", 0]}, 0]}}} ]
```

## Main definitions

* `Stage`, `Branch` — the document stages (`$match`, `$sort`, `$skip`, `$limit`)
  and a `$facet` branch: document stages with an optional closing `$count`.
* `Expr`, `Projection`, `TopStage` — `$project`'s expressions and the
  top-level stages.
* `runPipeline` — the pipeline over the collection's documents, in natural order.
* `aggregate`, `Cursor.next`, `decodeDeviceResult` — the driver calls that run a
  pipeline and read its first result into `internalDeviceResult`.

## Design notes

`$facet` turns the stream of documents into a single row holding each branch's
output, all computed from the same input list: this is where the store's page
and its total count come from one snapshot.  `$count` on no documents emits no
row at all, which is why the store reads the count through `$ifNull`.
-/

namespace DeviceInventory

/-- A document stage. -/
inductive Stage where
  /-- `{$match: q}` -/
  | matching (q : Query)
  /-- `{$sort: {field: order}}` -/
  | sort (field : String) (order : Int)
  /-- `{$skip: n}` -/
  | skip (n : Int)
  /-- `{$limit: n}` -/
  | limit (n : Int)
deriving Repr

/-- **A document stage over a list of documents.** -/
def Stage.run : Stage → List Doc → Except MongoError (List Doc)
  | .matching q, ds => do q.check; pure (select ds q)
  | .sort field order, ds =>
      if order = 1 ∨ order = -1 then .ok (ds.mergeSort (sortOrder (fieldPath field) (order = 1)))
      else .error (.badStage "$sort")
  | .skip n, ds => if n < 0 then .error (.badStage "$skip") else .ok (ds.drop n.toNat)
  | .limit n, ds => if n ≤ 0 then .error (.badStage "$limit") else .ok (ds.take n.toNat)

/-- Document stages in sequence. -/
def runStages : List Stage → List Doc → Except MongoError (List Doc)
  | [], ds => .ok ds
  | s :: rest, ds => (s.run ds).bind (runStages rest)

/-- A `$facet` branch: document stages, and an optional closing `{$count: field}`. -/
structure Branch where
  stages : List Stage
  count : Option String
deriving Repr

/-- A value in the row `$facet` emits, and in what `$project` makes of it. -/
inductive FacetValue where
  /-- the output of a branch without `$count` -/
  | docs (ds : List Doc)
  /-- the output of a branch closing with `$count`: no row, or the row `{field: n}` -/
  | counts (field : String) (ns : List Nat)
  | int (n : Int)
  | ints (ns : List Int)
deriving Repr

/-- **A `$facet` branch over a list of documents.** -/
def Branch.run (b : Branch) (ds : List Doc) : Except MongoError FacetValue := do
  let out ← runStages b.stages ds
  pure <| match b.count with
    | none => .docs out
    | some field => .counts field (if out.isEmpty then [] else [out.length])

/-- A row: named values. -/
abbrev Row := List (String × FacetValue)

/-- A `$project` expression, as far as the store writes them. -/
inductive Expr where
  /-- `"$a.b"` -/
  | field (path : String)
  | lit (n : Int)
  /-- `{$arrayElemAt: [a, i]}` -/
  | arrayElemAt (a : Expr) (i : Int)
  /-- `{$ifNull: [e, d]}` -/
  | ifNull (e d : Expr)
deriving Repr

/-- The value of a row's field; `none` when it is missing. -/
def Row.get (row : Row) (name : String) : Option FacetValue :=
  (row.find? fun f => decide (f.1 = name)).map (·.2)

/-- The value of a field path in a row: a field, or the numbers of a `$count`
branch read through `.field`. -/
def Row.lookup (row : Row) : Path → Option FacetValue
  | [name] => row.get name
  | [name, sub] => match row.get name with
    | some (.counts field ns) => if sub = field then some (.ints (ns.map Int.ofNat)) else none
    | _ => none
  | _ => none

/-- **A `$project` expression over a row**; `none` is a missing value. -/
def Expr.eval (row : Row) : Expr → Option FacetValue
  | .field path => row.lookup (fieldPath (path.drop 1))
  | .lit n => some (.int n)
  | .arrayElemAt a i => match a.eval row with
    | some (.ints ns) => if 0 ≤ i then (ns.get? i.toNat).map .int else none
    | _ => none
  | .ifNull e d => (e.eval row).or (d.eval row)

/-- A `$project` field: kept from the input row, or computed. -/
inductive Projection where
  | keep
  | expr (e : Expr)
deriving Repr

/-- `$project` over one row: a missing value leaves its field out. -/
def project (fields : List (String × Projection)) (row : Row) : Row :=
  fields.filterMap fun (name, p) =>
    match p with
    | .keep => (row.get name).map (name, ·)
    | .expr e => (e.eval row).map (name, ·)

/-- A top-level stage. -/
inductive TopStage where
  | stage (s : Stage)
  /-- `{$facet: {name: branch, …}}` -/
  | facet (branches : List (String × Branch))
  /-- `{$project: {name: projection, …}}` -/
  | project (fields : List (String × Projection))
deriving Repr

/-- What flows between top-level stages: documents, or rows. -/
inductive Stream where
  | docs (ds : List Doc)
  | rows (rs : List Row)
deriving Repr

/-- The branches of a `$facet`, each over the same documents. -/
def runBranches : List (String × Branch) → List Doc → Except MongoError Row
  | [], _ => .ok []
  | (name, b) :: rest, ds => do
      let v ← b.run ds
      let r ← runBranches rest ds
      pure ((name, v) :: r)

/-- **A pipeline over a stream.**  A `$facet` emits one row, also from no documents. -/
def runPipeline : List TopStage → Stream → Except MongoError Stream
  | [], s => .ok s
  | .stage st :: rest, .docs ds => (st.run ds).bind fun ds' => runPipeline rest (.docs ds')
  | .facet bs :: rest, .docs ds => (runBranches bs ds).bind fun row => runPipeline rest (.rows [row])
  | .project ps :: rest, .rows rs => runPipeline rest (.rows (rs.map (project ps)))
  | _ :: _, _ => .error (.badStage "stage on rows")

/-- The batch a cursor holds. -/
abbrev Cursor := Stream

/-- **`Aggregate(pipeline)`** over the collection's documents in natural order. -/
def aggregate (net : Backend) (c : Collection) (pipeline : List TopStage) :
    Except MongoError Cursor :=
  match net.fails .aggregate with
  | some e => .error e
  | none => runPipeline pipeline (.docs c.docs)

/-- **`cursor.Next`**: the first row of the batch, or `none` when the batch is empty or
fetching it failed (the driver keeps that error in `cursor.Err()`). -/
def Cursor.next (net : Backend) : Cursor → Option Row
  | .rows (r :: _) => if (net.fails .cursorNext).isSome then none else some r
  | _ => none

/-- `internalDeviceResult`: the page and the total count. -/
structure DeviceResult where
  devices : List Doc
  totalCount : Int

/-- **`cursor.Decode(&res)`** into `internalDeviceResult`: a missing field keeps its
zero value, a field of another type is a decoding error. -/
def decodeDeviceResult (net : Backend) (row : Row) : Except MongoError DeviceResult :=
  match net.fails .cursorDecode with
  | some e => .error e
  | none =>
    match row.get "results", row.get "totalCount" with
    | some (.docs ds), some (.int n) => .ok ⟨ds, n⟩
    | some (.docs ds), none => .ok ⟨ds, 0⟩
    | none, some (.int n) => .ok ⟨[], n⟩
    | none, none => .ok ⟨[], 0⟩
    | _, _ => .error (.backend "cannot decode into internalDeviceResult")

end DeviceInventory
