import DeviceInventory.Store.Isolation

/-!
# The timestamps of a device, over runs of many clients

`UpsertAttributes` stamps `updated` with the `time.Now()` of its call on every
write, and `created` with it when the write inserts.  Clients read their clocks
independently and the server applies their calls in whatever order they reach it,
so the readings a device receives need not arrive in order.  What holds in every
order is that both stamps of a device are readings of calls that named it; when
those calls were applied in the order of their readings, as one client's
sequential calls are, the device was created no later than it was last updated.
The runs here are runs of any calls, with any arguments, on servers that fail as
they may.

## Main definitions

* `Doc.UpdatedAt` — the `system-updated` record holds a given clock reading.
* `Doc.StampsIn` — the readings of the two stamps are related as a predicate says.

## Main statements

* `stamps_of_own_calls` — every device of every state a run reaches is stamped
  with readings of the calls naming it, created no later than updated when those
  calls were applied in the order of their readings.
* `stamps_unordered` — two calls applied against the order of their readings leave
  a device created after it was last updated.

## Design notes

What a call does to the stamps is said once (`stamps_step`), for any relation
between the two readings that the upsert keeps; each property is then that lemma
and its lift over a run (`runOn_stampedWithin`, `runOn_stampedBy`).  The calls
naming a device are singled out by the per-device view of
`DeviceInventory.Store.Isolation` (`Op.runOn_find?`): a device's document is the
one the run of its own calls leaves.
-/

namespace DeviceInventory

/-- **The `system-updated` record of the document holds the clock reading `t`.** -/
def Doc.UpdatedAt (d : Doc) (t : Int) : Prop :=
  ∀ r, d.get (updatedPath ++ r) = leafAt (stamp attrNameUpdated t).encode r

/-- **The document carries both timestamps, and their readings are related by `R`**:
it was created at `tc` and last upserted at `tu`, with `R tc tu`. -/
def Doc.StampsIn (d : Doc) (R : Int → Int → Prop) : Prop :=
  ∃ tc tu, d.CreatedAt tc ∧ d.UpdatedAt tu ∧ R tc tu

theorem Doc.UpdatedAt.of_under {d e : Doc} {t : Int} (h : e.under updatedPath = d.under updatedPath)
    (hd : d.UpdatedAt t) : e.UpdatedAt t :=
  fun r => (Doc.get_eq_of_under h (List.prefix_append _ _)).trans (hd r)

@[simp] theorem leafAt_stamp_value (name : String) (t : Int) :
    leafAt (stamp name t).encode ["value"] = some (.scalar (.date t)) := by
  simp [stamp, DeviceAttribute.encode, leafAt]

/-- A record holds one reading. -/
theorem Doc.CreatedAt.unique {d : Doc} {t t' : Int} (h : d.CreatedAt t) (h' : d.CreatedAt t') : t = t' := by
  simpa using (h ["value"]).symm.trans (h' ["value"])

theorem Doc.UpdatedAt.unique {d : Doc} {t t' : Int} (h : d.UpdatedAt t) (h' : d.UpdatedAt t') : t = t' := by
  simpa using (h ["value"]).symm.trans (h' ["value"])

/-- **The upsert stamps `updated` with the clock reading**, whatever else it writes. -/
theorem upsertUpdate_updatedAt {m : List (String × Subtree)} {now : Int} {insert : Bool} {d e : Doc}
    (h : (upsertUpdate m now).apply insert d = .ok e) : e.UpdatedAt now := fun r => by
  have := Update.apply_get_of_set h (mem_upsertUpdate_updated m now) r
  rwa [fieldPath_updatedField] at this

/-! ### One call -/

/-- **What one call does to the stamps**: an upsert moves `updated` to its own
reading, and stamps a device it inserts with that reading twice; no other call
touches them.  So a call keeps every device's readings related by `R` when the
upsert's reading keeps `R`, and an insert's satisfies it. -/
theorem stamps_step (net : Backend) (now : Int) (op : Op) {c : Collection} {R : Int → Int → Prop}
    (hupd : ∀ tc tu, R tc tu → R tc now) (hins : R now now)
    (hc : ∀ d ∈ c.docs, d.StampsIn R) : ∀ e ∈ (op.step net now c).docs, e.StampsIn R := by
  -- a group write touches neither stamp
  have group : ∀ {f u}, ((∃ g, u = setGroupUpdate g) ∨ u = unsetGroupUpdate) →
      Evolves f u false c (op.step net now c) → ∀ e ∈ (op.step net now c).docs, e.StampsIn R :=
    fun hu hev => hev.forall_docs hc (fun _ _ ⟨tc, tu, hcr, hup, hR⟩ _ h =>
      have hs := group_write_keeps_stamps hu h
      ⟨tc, tu, hcr.of_under hs.1, hup.of_under hs.2, hR⟩) fun h => absurd h Bool.false_ne_true
  rcases op.step_cases net now c with
    ⟨_, _, -, h | ⟨m, -, hev⟩⟩ | ⟨_, g, -, hev⟩ | ⟨_, _, -, hev⟩ | ⟨_, -, hdel⟩
  · rwa [h]
  · exact hev.forall_docs hc
      (fun _ _ ⟨tc, tu, hcr, _, hR⟩ _ h =>
        ⟨tc, now, hcr.of_under (upsertUpdate_under_created h), upsertUpdate_updatedAt h, hupd tc tu hR⟩)
      fun _ _ _ h => ⟨now, now, upsertUpdate_createdAt h, upsertUpdate_updatedAt h, hins⟩
  · exact group (.inl ⟨g, rfl⟩) hev
  · exact group (.inr rfl) hev
  · exact fun e he => hc e (mem_of_find?_drops hdel he)

/-! ### Runs -/

/-- **Every stamp a run writes is one of its readings**: a run whose readings all
satisfy `S` keeps both stamps of every device within `S`. -/
theorem runOn_stampedWithin {S : Int → Prop} (calls : List (Backend × Op × Int)) :
    ∀ {c : Collection}, (∀ call ∈ calls, S call.2.2) →
      (∀ d ∈ c.docs, d.StampsIn fun tc tu => S tc ∧ S tu) →
      ∀ d ∈ (Op.runOn calls c).docs, d.StampsIn fun tc tu => S tc ∧ S tu := by
  induction calls with
  | nil => exact fun _ hc => hc
  | cons call calls ih =>
      obtain ⟨net, op, now⟩ := call
      intro c hS hc
      have hnow := hS _ (List.mem_cons_self _ _)
      rw [Op.runOn]
      exact ih (fun call h => hS call (List.mem_cons_of_mem _ h))
        (stamps_step net now op (fun _ _ h => ⟨h.1, hnow⟩) ⟨hnow, hnow⟩ hc)

/-- **A run applied in the order of its readings keeps every device created no
later than it was updated**: each device stamped no later than the readings still
to come stays so. -/
theorem runOn_stampedBy (calls : List (Backend × Op × Int)) :
    ∀ {c : Collection}, (calls.map (·.2.2)).Sorted (· ≤ ·) →
      (∀ d ∈ c.docs, d.StampsIn fun tc tu => tc ≤ tu ∧ ∀ call ∈ calls, tu ≤ call.2.2) →
      ∀ d ∈ (Op.runOn calls c).docs, d.StampsIn fun tc tu => tc ≤ tu := by
  induction calls with
  | nil => exact fun _ hc d hd => let ⟨tc, tu, hcr, hup, hle, _⟩ := hc d hd; ⟨tc, tu, hcr, hup, hle⟩
  | cons call calls ih =>
      obtain ⟨net, op, now⟩ := call
      intro c hs hc
      rw [List.map_cons, List.sorted_cons] at hs
      rw [Op.runOn]
      -- before the call every stamp is no later than its reading, and after it too
      have hbefore : ∀ d ∈ c.docs, d.StampsIn fun tc tu => tc ≤ tu ∧ tu ≤ now :=
        fun d hd => let ⟨tc, tu, hcr, hup, hle, hnext⟩ := hc d hd
          ⟨tc, tu, hcr, hup, hle, hnext _ (List.mem_cons_self _ _)⟩
      refine ih hs.2 fun e he => ?_
      obtain ⟨tc, tu, hcr, hup, hle, hnow⟩ :=
        stamps_step net now op (fun _ _ h => ⟨h.1.trans h.2, le_rfl⟩) ⟨le_rfl, le_rfl⟩ hbefore e he
      exact ⟨tc, tu, hcr, hup, hle, fun call h => hnow.trans (hs.1 _ (List.mem_map_of_mem _ h))⟩

/-- **Every device is stamped by its own calls**: in every state a run of any calls
reaches from the empty collection, from any number of clients, with any clock
readings applied in any order and whatever the server fails, every device carries
a `created` and an `updated` stamp that are clock readings of calls naming it; and
when those calls were applied in the order of their readings, it was created no
later than it was last updated. -/
theorem stamps_of_own_calls (calls : List (Backend × Op × Int)) (id : DeviceID) (d : Doc)
    (hd : (Op.runOn calls Collection.empty).find? id = some d) :
    ∃ tc tu, d.CreatedAt tc ∧ d.UpdatedAt tu ∧
      tc ∈ (calls.filter fun call => id ∈ call.2.1.targets).map (·.2.2) ∧
      tu ∈ (calls.filter fun call => id ∈ call.2.1.targets).map (·.2.2) ∧
      (((calls.filter fun call => id ∈ call.2.1.targets).map (·.2.2)).Sorted (· ≤ ·) → tc ≤ tu) := by
  set own := calls.filter fun call => id ∈ call.2.1.targets
  -- the device's document is the one the run of its own calls leaves
  have hown : d ∈ (Op.runOn own Collection.empty).docs := by
    refine (Collection.find?_eq_some_iff.mp (?_ : (Op.runOn own Collection.empty).find? id = some d)).1
    rw [← hd, Op.runOn_find?, Op.runOn_find?, List.filter_filter]
    simp only [Bool.and_self]
  obtain ⟨tc, tu, hcr, hup, htc, htu⟩ := runOn_stampedWithin (S := (· ∈ own.map (·.2.2))) own
    (fun call h => List.mem_map_of_mem _ h) (fun _ h => absurd h (List.not_mem_nil _)) d hown
  refine ⟨tc, tu, hcr, hup, htc, htu, fun hs => ?_⟩
  obtain ⟨tc', tu', hcr', hup', hle⟩ := runOn_stampedBy own hs (fun _ h => absurd h (List.not_mem_nil _)) d hown
  rwa [hcr.unique hcr', hup.unique hup']

/-- The device `a` added at reading `2` and upserted at `1`, around an upsert of `b`:
its stamps are `2` and `1`, both readings of its own calls. -/
theorem stamps_of_own_calls_reordered :
    ∃ d, (Op.runOn [(.healthy, .addDevice ⟨"a", [], ""⟩, 2), (.healthy, .upsertAttributes "b" [], 3),
        (.healthy, .upsertAttributes "a" [], 1)] Collection.empty).find? "a" = some d ∧
      ∃ tc tu, d.CreatedAt tc ∧ d.UpdatedAt tu ∧
        tc ∈ ([(Backend.healthy, Op.addDevice ⟨"a", [], ""⟩, (2 : Int)), (.healthy, .upsertAttributes "b" [], 3),
          (.healthy, .upsertAttributes "a" [], 1)].filter fun call => "a" ∈ call.2.1.targets).map (·.2.2) ∧
        tu ∈ ([(Backend.healthy, Op.addDevice ⟨"a", [], ""⟩, (2 : Int)), (.healthy, .upsertAttributes "b" [], 3),
          (.healthy, .upsertAttributes "a" [], 1)].filter fun call => "a" ∈ call.2.1.targets).map (·.2.2) ∧
        ((([(Backend.healthy, Op.addDevice ⟨"a", [], ""⟩, (2 : Int)), (.healthy, .upsertAttributes "b" [], 3),
          (.healthy, .upsertAttributes "a" [], 1)].filter fun call => "a" ∈ call.2.1.targets).map
            (·.2.2)).Sorted (· ≤ ·) → tc ≤ tu) :=
  have h : ((Op.runOn [(.healthy, .addDevice ⟨"a", [], ""⟩, 2), (.healthy, .upsertAttributes "b" [], 3),
      (.healthy, .upsertAttributes "a" [], 1)] Collection.empty).find? "a").isSome := by decide
  ⟨_, (Option.some_get h).symm, stamps_of_own_calls _ "a" _ (Option.some_get h).symm⟩

/-- **Calls applied against the order of their readings leave a device created after
it was last updated**: `AddDevice` at reading `2`, applied before an upsert read at
`1`. -/
theorem stamps_unordered :
    ((Op.runOn [(.healthy, .addDevice ⟨"a", [], ""⟩, 2), (.healthy, .upsertAttributes "a" [], 1)]
        Collection.empty).find? "a").map (fun d => (d.get (createdPath ++ ["value"]), d.get (updatedPath ++ ["value"]))) =
      some (some (.scalar (.date 2)), some (.scalar (.date 1))) := by
  decide

end DeviceInventory
