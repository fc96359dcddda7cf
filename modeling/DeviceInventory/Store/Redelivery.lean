import DeviceInventory.Mongo.Replay
import DeviceInventory.Store.Isolation

/-!
# Requests delivered more than once

A client whose call times out cannot tell whether the server carried it out, and
sends it again; a network may deliver one request twice.  Every write call of the
store is safe to deliver again.  Seen from any device, a call delivered twice in a
row leaves the device's document reading as one delivery does.  A call delivered
twice here has the same arguments and the same clock reading: it is the request,
as the store built it, once more.  A device's document is built by the calls that
name it alone (`Op.runOn_find?`), so the second delivery may come after any calls
on other devices.

What is proved is that the documents read alike, which is all a read of the
device sees.

## Main definitions

* `Duplicated` — a run with some of its calls delivered more than once, each repeat
  right after the delivery it repeats.

## Main statements

* `Op.onDoc_replayable` — every call, seen from any device, keeps documents reading
  alike, and a second delivery of it changes no read.
* `duplicate_deliveries_harmless` — in every run, from any number of clients and
  whatever the server fails, repeats of the calls on a device, each right after its
  original among those calls, leave the device's document reading as the run
  without them.
-/

namespace DeviceInventory

/-- **Every call, seen from any device, can be delivered again.** -/
theorem Op.onDoc_replayable (net : Backend) (now : Int) (id : DeviceID) (op : Op) :
    Replayable (op.onDoc net now id) := by
  have hupsert : ∀ devId attrs, Replayable (upsertAttributesDoc net now devId attrs id) := fun devId attrs => by
    rcases hm : makeAttrUpsert attrs with e | m
    · have : upsertAttributesDoc net now devId attrs id = fun o => o := by
        funext o; simp only [upsertAttributesDoc, hm]
      exact this ▸ Replayable.id
    · have : upsertAttributesDoc net now devId attrs id =
          fun o => if id = devId then upsertDoc net devId (upsertUpdate m now) o else o := by
        funext o; simp only [upsertAttributesDoc, hm]
      exact this ▸ (upsertDoc_replayable net devId _).ite
  cases op with
  | addDevice dev => exact hupsert _ _
  | upsertAttributes devId attrs => exact hupsert devId attrs
  | updateDeviceGroup devId g => exact (updateOneDoc_replayable net _).ite
  | updateDevicesGroup _ _ | unsetDeviceGroup _ _ | unsetDevicesGroup _ _ => exact updateManyDoc_replayable net _ _
  | deleteDevice devId => exact (deleteOneDoc_replayable net).ite

theorem Op.runDoc_congr (id : DeviceID) : ∀ (calls : List (Backend × Op × Int)) {o o' : Option Doc},
    Option.Rel Doc.ReadsAlike o o' → Option.Rel Doc.ReadsAlike (Op.runDoc id calls o) (Op.runDoc id calls o')
  | [], _, _, h => h
  | (net, op, now) :: calls, _, _, h => Op.runDoc_congr id calls ((op.onDoc_replayable net now id).congr h)

/-- **A run with some calls delivered more than once**: `Duplicated calls calls'`
when `calls'` is `calls` with each call delivered one or more times in a row. -/
inductive Duplicated : List (Backend × Op × Int) → List (Backend × Op × Int) → Prop
  | nil : Duplicated [] []
  | cons (call : Backend × Op × Int) {calls calls' : List (Backend × Op × Int)} :
      Duplicated calls calls' → Duplicated (call :: calls) (call :: calls')
  | again (call : Backend × Op × Int) {calls calls' : List (Backend × Op × Int)} :
      Duplicated calls (call :: calls') → Duplicated calls (call :: call :: calls')

/-- Seen from one device, a run with calls delivered again reads as the run. -/
theorem Op.runDoc_duplicated (id : DeviceID) {calls calls' : List (Backend × Op × Int)}
    (h : Duplicated calls calls') : ∀ {o' o : Option Doc}, Option.Rel Doc.ReadsAlike o' o →
      Option.Rel Doc.ReadsAlike (Op.runDoc id calls' o') (Op.runDoc id calls o) := by
  induction h with
  | nil => exact fun h => h
  | cons call _ ih =>
      obtain ⟨net, op, now⟩ := call
      exact fun h => ih ((op.onDoc_replayable net now id).congr h)
  | @again call calls calls' _ ih =>
      obtain ⟨net, op, now⟩ := call
      intro o' o h
      -- the second delivery reads as the first; the rest of the run keeps it so
      have h₁ : Option.Rel Doc.ReadsAlike (Op.runDoc id calls' (op.onDoc net now id (op.onDoc net now id o')))
          (Op.runDoc id calls' (op.onDoc net now id o')) :=
        Op.runDoc_congr id calls' ((op.onDoc_replayable net now id).again o')
      exact rel_readsAlike_trans h₁ (ih h)

/-- **A request delivered more than once is delivered once**: in every run, from
any number of clients and whatever the server fails, when the calls naming the
device `id` are those of another run with some delivered again, each repeat right
after its original among them, the two runs leave the document of `id` reading
alike, or both leave it absent, from any state. -/
theorem duplicate_deliveries_harmless {calls calls' : List (Backend × Op × Int)} {id : DeviceID}
    (h : Duplicated (calls.filter fun call => id ∈ call.2.1.targets)
      (calls'.filter fun call => id ∈ call.2.1.targets)) (c : Collection) :
    Option.Rel Doc.ReadsAlike ((Op.runOn calls' c).find? id) ((Op.runOn calls c).find? id) := by
  rw [Op.runOn_find?, Op.runOn_find?]
  exact Op.runDoc_duplicated id h (rel_readsAlike_refl _)

/-- The upsert of `a`'s `mac` delivered a second time, after a call on `b`. -/
theorem duplicate_deliveries_harmless_mac :
    Duplicated
      ([(Backend.healthy, Op.upsertAttributes "a" [⟨"mac", none, some (.scalar (.str "00:11")), ""⟩], (0 : Int)),
          (.healthy, .updateDeviceGroup "b" "g", 1)].filter fun call => "a" ∈ call.2.1.targets)
      ([(Backend.healthy, Op.upsertAttributes "a" [⟨"mac", none, some (.scalar (.str "00:11")), ""⟩], (0 : Int)),
          (.healthy, .updateDeviceGroup "b" "g", 1),
          (.healthy, .upsertAttributes "a" [⟨"mac", none, some (.scalar (.str "00:11")), ""⟩], 0)].filter
        fun call => "a" ∈ call.2.1.targets) ∧
    Option.Rel Doc.ReadsAlike
      ((Op.runOn [(Backend.healthy, Op.upsertAttributes "a" [⟨"mac", none, some (.scalar (.str "00:11")), ""⟩],
          (0 : Int)), (.healthy, .updateDeviceGroup "b" "g", 1),
          (.healthy, .upsertAttributes "a" [⟨"mac", none, some (.scalar (.str "00:11")), ""⟩], 0)]
        Collection.empty).find? "a")
      ((Op.runOn [(Backend.healthy, Op.upsertAttributes "a" [⟨"mac", none, some (.scalar (.str "00:11")), ""⟩],
          (0 : Int)), (.healthy, .updateDeviceGroup "b" "g", 1)] Collection.empty).find? "a") :=
  have h : Duplicated
      ([(Backend.healthy, Op.upsertAttributes "a" [⟨"mac", none, some (.scalar (.str "00:11")), ""⟩], (0 : Int)),
          (.healthy, .updateDeviceGroup "b" "g", 1)].filter fun call => "a" ∈ call.2.1.targets)
      ([(Backend.healthy, Op.upsertAttributes "a" [⟨"mac", none, some (.scalar (.str "00:11")), ""⟩], (0 : Int)),
          (.healthy, .updateDeviceGroup "b" "g", 1),
          (.healthy, .upsertAttributes "a" [⟨"mac", none, some (.scalar (.str "00:11")), ""⟩], 0)].filter
        fun call => "a" ∈ call.2.1.targets) :=
    .again _ (.cons _ .nil)
  ⟨h, duplicate_deliveries_harmless h Collection.empty⟩

end DeviceInventory
