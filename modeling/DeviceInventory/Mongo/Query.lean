import DeviceInventory.Bson.Document

/-!
# Query filters

The filters the store hands to `Find`, `FindOne`, `UpdateOne`, `UpdateMany`,
`DeleteOne`, `Distinct` and an aggregation's `$match`, as a syntax tree, and what
the server makes of them: first a check of the whole filter (an unknown operator
or an empty `$and` is refused before any document is read), then a test of each
document.

## Main definitions

* `MongoError` — the errors a server command can end with.
* `Query` — the filter language: `{}`, `$and`, `$or`, `{field: {op: v}}`,
  `{field: v}`, `$exists`, and the two `_id` forms.
* `Query.check` — the server's validation of a filter.
* `Query.matches` — whether a document passes a filter.
* `select` — the documents of a list that pass a filter, in their order.

## Design notes

`$and` and `$or` hold lists of filters, so `matches` and `check` recurse through
the lists by mutual structural recursion (`matchesAll`, `matchesAny`,
`checkAll`); the `_all`/`_any` equations let every proof treat them as
`List.all` and `List.any`.  `_id` is not a leaf of the flattened document, so the
two filters on it are constructors of their own.
-/

namespace DeviceInventory

/-- The errors a command to the server can end with, as far as the store meets them. -/
inductive MongoError where
  /-- `unknown operator: op` -/
  | unknownOperator (op : String)
  /-- `$and/$or/$nor must be a nonempty array` -/
  | emptyLogical
  /-- `Updating the path 'p' would create a conflict at 'p'` -/
  | conflict (path : String)
  /-- `The update path 'p' contains an empty field name, which is not allowed.` -/
  | emptyFieldName (path : String)
  /-- `Cannot create field … in element {…}`: the path runs through a value that is
  not a document. -/
  | cannotCreateField (path : Path)
  /-- A pipeline stage or a `Find` option with an argument the server refuses (a
  negative skip, a `$limit` that is not positive, a sort order other than `1` and
  `-1`). -/
  | badStage (stage : String)
  /-- `mongo: no documents in result` -/
  | noDocuments
  /-- The server or the network failed. -/
  | backend (msg : String)
deriving DecidableEq, Repr

/-- Outcomes of commands compare by their error or their result, so equalities of
outcomes are decidable and evaluate by `decide`. -/
instance decidableEqExcept {ε α : Type} [DecidableEq ε] [DecidableEq α] : DecidableEq (Except ε α)
  | .error a, .error b => decidable_of_iff (a = b) ⟨congrArg _, Except.error.inj⟩
  | .ok a, .ok b => decidable_of_iff (a = b) ⟨congrArg _, Except.ok.inj⟩
  | .error _, .ok _ => isFalse Except.noConfusion
  | .ok _, .error _ => isFalse Except.noConfusion

/-- A filter document. -/
inductive Query where
  /-- `{}` -/
  | all
  /-- `{$and: [q₁, …]}`; also a `bson.M` with several keys -/
  | and (qs : List Query)
  /-- `{$or: [q₁, …]}` -/
  | or (qs : List Query)
  /-- `{field: {op: v}}` -/
  | cmp (field : String) (op : String) (v : Operand)
  /-- `{field: v}` -/
  | eq (field : String) (v : Operand)
  /-- `{field: {$exists: b}}` -/
  | existsField (field : String) (b : Bool)
  /-- `{_id: id}` -/
  | idEq (id : DeviceID)
  /-- `{_id: {$in: ids}}` -/
  | idIn (ids : List DeviceID)
deriving Repr

/-- The comparison operators the model gives a meaning to: `$eq`, and the empty
name, which names no operator: `{field: {"": v}}` is an equality with the embedded
document `{"": v}`, which no stored value is, so it matches nothing.  The server's
other operators are left out, and refused here as unknown. -/
def knownOperator (op : String) : Bool := op = "$eq" || op = ""

mutual
/-- **Whether a document passes a filter.** -/
def Query.matches (d : Doc) : Query → Bool
  | .all => true
  | .and qs => Query.matchesAll d qs
  | .or qs => Query.matchesAny d qs
  | .cmp field op v => op = "$eq" && eqMatch d (fieldPath field) v
  | .eq field v => eqMatch d (fieldPath field) v
  | .existsField field b => d.has (fieldPath field) == b
  | .idEq id => d.id = id
  | .idIn ids => ids.contains d.id

/-- A document passes every filter of a list. -/
def Query.matchesAll (d : Doc) : List Query → Bool
  | [] => true
  | q :: qs => q.matches d && Query.matchesAll d qs

/-- A document passes some filter of a list. -/
def Query.matchesAny (d : Doc) : List Query → Bool
  | [] => false
  | q :: qs => q.matches d || Query.matchesAny d qs
end

mutual
/-- **The server's validation of a filter**: every operator known, no empty `$and`
or `$or`. -/
def Query.check : Query → Except MongoError Unit
  | .and qs | .or qs => if qs.isEmpty then .error .emptyLogical else Query.checkAll qs
  | .cmp _ op _ => if knownOperator op then .ok () else .error (.unknownOperator op)
  | _ => .ok ()

/-- Every filter of a list passes validation. -/
def Query.checkAll : List Query → Except MongoError Unit
  | [] => .ok ()
  | q :: qs => do q.check; Query.checkAll qs
end

@[simp] theorem Query.matchesAll_eq (d : Doc) (qs : List Query) :
    Query.matchesAll d qs = qs.all (·.matches d) := by
  induction qs with
  | nil => rfl
  | cons q qs ih => simp [Query.matchesAll, ih]

@[simp] theorem Query.matchesAny_eq (d : Doc) (qs : List Query) :
    Query.matchesAny d qs = qs.any (·.matches d) := by
  induction qs with
  | nil => rfl
  | cons q qs ih => simp [Query.matchesAny, ih]

@[simp] theorem Query.matches_and (d : Doc) (qs : List Query) :
    (Query.and qs).matches d = qs.all (·.matches d) := by
  simp [Query.matches]

@[simp] theorem Query.matches_or (d : Doc) (qs : List Query) :
    (Query.or qs).matches d = qs.any (·.matches d) := by
  simp [Query.matches]

@[simp] theorem Query.matches_idEq (d : Doc) (id : DeviceID) :
    (Query.idEq id).matches d = decide (d.id = id) := by
  simp [Query.matches]

@[simp] theorem Query.matches_idIn (d : Doc) (ids : List DeviceID) :
    (Query.idIn ids).matches d = decide (d.id ∈ ids) := by
  simp [Query.matches]

theorem Query.checkAll_eq_ok {qs : List Query} :
    Query.checkAll qs = .ok () ↔ ∀ q ∈ qs, q.check = .ok () := by
  induction qs with
  | nil => simp [Query.checkAll]
  | cons q qs ih =>
      rcases h : q.check with e | ⟨⟩
      · simp [Query.checkAll, h, bind, Except.bind]
      · simpa [Query.checkAll, h, bind, Except.bind] using ih

/-- The documents of a list that pass a filter, in their order. -/
def select (docs : List Doc) (q : Query) : List Doc := docs.filter (q.matches ·)

end DeviceInventory
