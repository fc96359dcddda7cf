import DeviceInventory.Mongo.Aggregate

/-!
# The store's data model

The Go types and constants `store/mongo/datastore_mongo.go` works with, and the
error values its operations return.

## Main definitions

* the `Db…` constants of the store, and the attribute constants of the `model`
  package it uses (`attrScopeSystem`, `attrNameGroup`, …);
* `DeviceAttribute`, `Device` — what callers submit;
* `Filter`, `AttrSort`, `ListQuery` — the listing query of `GetDevices`;
* `StoreError`, `Failure` — how an operation ends when it does not return
  normally: a non-nil `error`, or a run-time panic; `StoreError.cause` — the
  error a wrapped one stands for.

## Design notes

The `model` and `store` packages are not among the sources; what the store
uses of them is modelled from the spec, and each such definition says so.  A
Go `interface{}` attribute value is a `Leaf` (`none` for `nil`), a `*string`
an `Option String`, a `*bool` an `Option Bool`.
-/

namespace DeviceInventory

/-! ### Constants -/

/-- `DbDevAttributes` -/
def dbDevAttributes : String := "attributes"
/-- `DbDevGroup` -/
def dbDevGroup : String := "group"
/-- `DbDevAttributesDesc` -/
def dbDevAttributesDesc : String := "description"
/-- `DbDevAttributesValue` -/
def dbDevAttributesValue : String := "value"
/-- `DbDevAttributesScope` -/
def dbDevAttributesScope : String := "scope"
/-- `DbDevAttributesName` -/
def dbDevAttributesName : String := "name"

/-- Modelled from the spec: `model.AttrScopeInventory`, the scope an attribute
submitted without one gets. -/
def attrScopeInventory : String := "inventory"
/-- Modelled from the spec: `model.AttrScopeSystem`, the scope of the attributes
the store itself manages. -/
def attrScopeSystem : String := "system"
/-- Modelled from the spec: `model.AttrNameGroup`. -/
def attrNameGroup : String := "group"
/-- Modelled from the spec: `model.AttrNameUpdated`. -/
def attrNameUpdated : String := "updated"
/-- Modelled from the spec: `model.AttrNameCreated`. -/
def attrNameCreated : String := "created"

/-- `DbDevAttributesGroup`: `attributes.system-group`. -/
def dbDevAttributesGroup : String :=
  dbDevAttributes ++ "." ++ attrScopeSystem ++ "-" ++ attrNameGroup
/-- `DbDevAttributesGroupValue`: `attributes.system-group.value`. -/
def dbDevAttributesGroupValue : String := dbDevAttributesGroup ++ "." ++ dbDevAttributesValue

/-! ### Submitted data -/

/-- `model.DeviceAttribute`. -/
structure DeviceAttribute where
  name : String
  description : Option String
  value : Option Leaf
  scope : String
deriving DecidableEq, Repr

/-- The BSON form of a `model.DeviceAttribute` written as a whole: its fields in
the order the struct declares them, `name`, `description`, `value`, `scope`, the
unset ones left out (the struct is not in the sources; the store encodes it only
for the records it builds itself, whose name and scope are never empty). -/
def DeviceAttribute.encode (a : DeviceAttribute) : Subtree :=
  [(["name"], .scalar (.str a.name))] ++
    (a.description.map fun s => [(["description"], .scalar (.str s))]).getD [] ++
    (a.value.map fun v => [(["value"], v)]).getD [] ++
    [(["scope"], .scalar (.str a.scope))]

/-- `model.Device`, as far as the store reads it. -/
structure Device where
  id : DeviceID
  attributes : List DeviceAttribute
  group : String
deriving DecidableEq, Repr

/-! ### Listing queries -/

/-- Modelled from the spec: `store.ComparisonOperator`; `Eq` is the only operator
the spec names. -/
inductive ComparisonOperator where
  | eq
  | other (code : Int)
deriving DecidableEq, Repr

/-- `store.Filter`: a comparison of an attribute's value, carrying the value also
as a number when it parses as one. -/
structure Filter where
  attrName : String
  attrScope : String
  value : Operand
  valueFloat : Option Int
  operator : ComparisonOperator
deriving DecidableEq, Repr

/-- `store.Sort` (a keyword in Lean, hence the name). -/
structure AttrSort where
  attrName : String
  attrScope : String
  ascending : Bool
deriving DecidableEq, Repr

/-- `store.ListQuery` -/
structure ListQuery where
  skip : Int
  limit : Int
  filters : List Filter
  sort : Option AttrSort
  hasGroup : Option Bool
  groupName : String
deriving DecidableEq, Repr

/-! ### Errors -/

/-- The `error` values the store returns. -/
inductive StoreError where
  /-- `store.ErrDevNotFound` -/
  | devNotFound
  /-- `store.ErrGroupNotFound` -/
  | groupNotFound
  /-- `store.ErrNoAttrName` -/
  | noAttrName
  /-- a driver error, returned as it is -/
  | mongo (e : MongoError)
  /-- `errors.Wrap(cause, msg)` -/
  | wrap (msg : String) (cause : StoreError)
  /-- `errors.New(msg)` -/
  | new (msg : String)
deriving DecidableEq, Repr

/-- `errors.Cause` of `github.com/pkg/errors`: the error beneath every
`errors.Wrap`, the one a caller compares with the store's error values. -/
def StoreError.cause : StoreError → StoreError
  | .wrap _ e => e.cause
  | e => e

/-- How a call into the store ends when it does not return normally. -/
inductive Failure where
  /-- a non-nil `error` -/
  | error (e : StoreError)
  /-- a run-time panic -/
  | panic (what : String)
deriving DecidableEq, Repr

end DeviceInventory
