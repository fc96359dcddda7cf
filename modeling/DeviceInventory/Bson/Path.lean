import Mathlib.Data.List.Basic

/-!
# Field paths

MongoDB addresses a field inside a document by a *dotted name*:
`attributes.inventory-mac.value` is the field `value` of the sub-document
`inventory-mac` of the sub-document `attributes`.  The store composes every such
name by string formatting (`fmt.Sprintf("%s.%s.%s", …)` in `GetDevices`,
`makeAttrField` in the upsert) and hands the string to the driver; the server
reads it back by cutting it at the dots.  Nothing in the store escapes a `.` or
a `-` inside an attribute's scope or name, so which fields an operation touches
is decided here.

## Main definitions

* `Path` — a field path, as its list of segments.
* `fieldPath` — how the server reads a dotted name: the segments between the
  dots, so `fieldPath "a.b-c.d" = ["a", "b-c", "d"]`.
* `Conflicting` — two paths name the same field or one lies inside the other.
  The server refuses an update document holding two such paths, and a `$set` of
  one path rewrites everything below it and nothing beside it.

## Design notes

The segments are `List.splitOn` on the characters of the name.  The two facts
every later proof uses are `fieldPath_append_dot` (a dot the store writes
between two names separates their segments) and `fieldPath_of_dotFree` (a name
without a dot is one segment); nothing downstream unfolds the split.
-/

namespace DeviceInventory

/-- A field path: the segments of a dotted field name, outermost first. -/
abbrev Path := List String

/-- **How the server reads a dotted field name**: the pieces between the dots.
An empty piece (`a..b`, a trailing `.`) stays as an empty segment; the update
semantics rejects it. -/
def fieldPath (s : String) : Path :=
  (s.data.splitOn '.').map String.mk

/-- A name the server reads as a single segment. -/
def DotFree (s : String) : Prop := '.' ∉ s.data

instance (s : String) : Decidable (DotFree s) :=
  inferInstanceAs (Decidable ('.' ∉ s.data))

/-- Splitting at a separator that sits between two lists splits each of them. -/
theorem splitOnP_append_sep {α : Type} (p : α → Bool) {sep : α} (hsep : p sep = true) :
    ∀ a b : List α, (a ++ sep :: b).splitOnP p = a.splitOnP p ++ b.splitOnP p
  | [], b => by simp [hsep]
  | c :: a, b => by
      have ih := splitOnP_append_sep p hsep a b
      obtain ⟨w, ws, hw⟩ := List.exists_cons_of_ne_nil (List.splitOnP_ne_nil p a)
      by_cases hc : p c <;> simp [List.cons_append, List.splitOnP_cons, hc, ih, hw]

/-- **A dot the store writes between two names separates their segments.** -/
theorem fieldPath_append_dot (a b : String) :
    fieldPath (a ++ "." ++ b) = fieldPath a ++ fieldPath b := by
  have h := splitOnP_append_sep (· == '.') (show ('.' == '.') = true by decide) a.data b.data
  simp only [fieldPath, String.data_append, List.splitOn, List.append_assoc]
  simp [h]

/-- A name without a dot is one segment. -/
theorem fieldPath_of_dotFree {s : String} (h : DotFree s) : fieldPath s = [s] := by
  have hs : s.data.splitOnP (· == '.') = [s.data] :=
    List.splitOnP_eq_single _ _ fun x hx hdot => h (by simpa using (beq_iff_eq.mp hdot) ▸ hx)
  simp [fieldPath, List.splitOn, hs]

theorem fieldPath_ne_nil (s : String) : fieldPath s ≠ [] := by
  simpa [fieldPath, List.splitOn] using List.splitOnP_ne_nil _ s.data

theorem dotFree_append {a b : String} : DotFree (a ++ b) ↔ DotFree a ∧ DotFree b := by
  simp [DotFree, not_or]

/-! ### Conflicting paths -/

/-- Two paths **conflict** when they name the same field or one lies inside the
other: the server rejects an update that writes both, and writing one rewrites
the other. -/
def Conflicting (p q : Path) : Prop := p <+: q ∨ q <+: p

instance : DecidableRel Conflicting := fun p q =>
  inferInstanceAs (Decidable (p <+: q ∨ q <+: p))

theorem Conflicting.symm {p q : Path} (h : Conflicting p q) : Conflicting q p :=
  h.elim Or.inr Or.inl

theorem conflicting_comm {p q : Path} : Conflicting p q ↔ Conflicting q p :=
  ⟨Conflicting.symm, Conflicting.symm⟩

/-- Two paths above one field conflict. -/
theorem conflicting_of_prefixes {p q r : Path} (hp : p <+: r) (hq : q <+: r) :
    Conflicting p q :=
  List.prefix_or_prefix_of_prefix hp hq

/-- Paths that leave a common stem at different segments do not conflict. -/
theorem not_conflicting_of_ne {stem r s : Path} {a b : String} (h : a ≠ b) :
    ¬ Conflicting (stem ++ a :: r) (stem ++ b :: s) := by
  simp [Conflicting, List.prefix_append_right_inj, h, h.symm]

end DeviceInventory
