import GpuLedger.Node
import Mathlib.Data.List.Nodup

/-!
# Changing the First Device of Each Number

A number stands for the first device of a node that has it, and everything that is booked or
given back under the number goes there. `Node.mapFirst` is the one way in which a node is
changed here: a function is applied to the first device of each number, and the devices in
whose number another one comes before them are left alone. Booking and giving back one amount
are of this form (`Node.book_eq`, `Node.unbook_eq_ok`), and two such changes are one
(`Node.mapFirst_mapFirst`), so what any number of bookings does to a node can be worked out
device by device.

## Main results

* `Node.device?_mapFirst` — the device of a number is changed by the function;
* `Node.getElem?_mapFirst` — which places of the list are changed at all;
* `Node.mapFirst_eq_self_iff` — when nothing has been changed;
* `Node.mem_mapFirst` — a device of the changed node was there before or is a changed one.
-/

namespace GpuLedger

namespace Node

/-- Applies a function to the first device of each number that is not among the given ones. -/
def mapUnseen (f : Device → Device) : List DeviceId → List Device → List Device
  | _, [] => []
  | seen, d :: rest =>
    (if d.id ∈ seen then d else f d) :: mapUnseen f (d.id :: seen) rest

/-- Applies a function to the first device of each number. -/
def mapFirst (f : Device → Device) (n : Node) : Node :=
  { n with devices := mapUnseen f [] n.devices }

/-- A change of devices does not change the quota. -/
@[simp] theorem quota_mapFirst (f : Device → Device) (n : Node) :
    (n.mapFirst f).quota = n.quota :=
  rfl

/-! ### Which devices are changed -/

section Keeping

variable {f g : Device → Device}

/-- The numbers of the devices stay as they are. -/
theorem map_id_mapUnseen (hf : ∀ d, (f d).id = d.id) (seen : List DeviceId)
    (ds : List Device) : (mapUnseen f seen ds).map Device.id = ds.map Device.id := by
  induction ds generalizing seen with
  | nil => rfl
  | cons d rest ih =>
      simp only [mapUnseen, List.map_cons, ih]
      split
      · rfl
      · rw [hf]

/-- The first device of a number that has not been seen is the changed one. -/
theorem find?_mapUnseen (hf : ∀ d, (f d).id = d.id) {seen : List DeviceId} {id : DeviceId}
    (hid : id ∉ seen) (ds : List Device) :
    (mapUnseen f seen ds).find? (·.id = id) = (ds.find? (·.id = id)).map f := by
  induction ds generalizing seen with
  | nil => rfl
  | cons d rest ih =>
      by_cases hd : d.id = id
      · subst hd
        simp [mapUnseen, hid, hf]
      · have hhead : (if d.id ∈ seen then d else f d).id = d.id := by
          split
          · rfl
          · rw [hf]
        have hnew : id ∉ d.id :: seen := by
          simp only [List.mem_cons, not_or]
          exact ⟨Ne.symm hd, hid⟩
        simp only [mapUnseen, List.find?_cons, hhead, hd, decide_false]
        exact ih hnew

/-- Two changes one after the other are one change. -/
theorem mapUnseen_mapUnseen (hf : ∀ d, (f d).id = d.id) (seen : List DeviceId)
    (ds : List Device) :
    mapUnseen g seen (mapUnseen f seen ds) = mapUnseen (g ∘ f) seen ds := by
  induction ds generalizing seen with
  | nil => rfl
  | cons d rest ih =>
      by_cases hd : d.id ∈ seen
      · simp [mapUnseen, hd, ih]
      · simp [mapUnseen, hd, hf, ih]

/-- Functions that agree on the devices whose number has not been seen make the same change. -/
theorem mapUnseen_congr {seen : List DeviceId} {ds : List Device}
    (h : ∀ d ∈ ds, d.id ∉ seen → f d = g d) : mapUnseen f seen ds = mapUnseen g seen ds := by
  induction ds generalizing seen with
  | nil => rfl
  | cons d rest ih =>
      have hhead : (if d.id ∈ seen then d else f d) = if d.id ∈ seen then d else g d := by
        split
        · rfl
        · next hseen => exact h d List.mem_cons_self hseen
      have htail : mapUnseen f (d.id :: seen) rest = mapUnseen g (d.id :: seen) rest :=
        ih fun e he hseen =>
          h e (List.mem_cons_of_mem _ he) fun hin => hseen (List.mem_cons_of_mem _ hin)
      simp only [mapUnseen, hhead, htail]

/-- A function that leaves the devices whose number has not been seen alone changes nothing. -/
theorem mapUnseen_eq_self {seen : List DeviceId} {ds : List Device}
    (h : ∀ d ∈ ds, d.id ∉ seen → f d = d) : mapUnseen f seen ds = ds := by
  induction ds generalizing seen with
  | nil => rfl
  | cons d rest ih =>
      have hhead : (if d.id ∈ seen then d else f d) = d := by
        split
        · rfl
        · next hseen => exact h d List.mem_cons_self hseen
      rw [mapUnseen, hhead, ih fun e he hseen =>
        h e (List.mem_cons_of_mem _ he) fun hin => hseen (List.mem_cons_of_mem _ hin)]

/-- Where no number occurs twice or has been seen, every device is changed. -/
theorem mapUnseen_eq_map {seen : List DeviceId} {ds : List Device}
    (hids : (ds.map Device.id).Nodup) (hseen : ∀ d ∈ ds, d.id ∉ seen) :
    mapUnseen f seen ds = ds.map f := by
  induction ds generalizing seen with
  | nil => rfl
  | cons d rest ih =>
      obtain ⟨hd, hrest⟩ := List.nodup_cons.mp hids
      have hnew : ∀ e ∈ rest, e.id ∉ d.id :: seen := by
        intro e he hin
        rcases List.mem_cons.mp hin with heq | hin
        · exact hd (List.mem_map.mpr ⟨e, he, heq⟩)
        · exact hseen e (List.mem_cons_of_mem _ he) hin
      rw [mapUnseen, if_neg (hseen d List.mem_cons_self), ih hrest hnew, List.map_cons]

/-- A place of the list is changed exactly when its device is the first of its number. -/
theorem getElem?_mapUnseen (seen : List DeviceId) (ds : List Device) (i : Nat) :
    (mapUnseen f seen ds)[i]? = ds[i]?.map fun d =>
      if d.id ∉ seen ∧ ds.findIdx? (·.id = d.id) = some i then f d else d := by
  induction ds generalizing seen i with
  | nil => rfl
  | cons d rest ih =>
      cases i with
      | zero =>
          by_cases hd : d.id ∈ seen <;> simp [mapUnseen, hd, List.findIdx?_cons]
      | succ i =>
          simp only [mapUnseen, List.getElem?_cons_succ, ih]
          refine Option.map_congr fun e _ => ?_
          by_cases he : d.id = e.id
          · simp [he, List.findIdx?_cons]
          · have he' : e.id ≠ d.id := Ne.symm he
            simp [he, he', List.findIdx?_cons]

/-- A device after the change was there before, or is a changed first device. -/
theorem mem_mapUnseen {seen : List DeviceId} {ds : List Device} {x : Device}
    (h : x ∈ mapUnseen f seen ds) :
    x ∈ ds ∨ ∃ d, d.id ∉ seen ∧ ds.find? (·.id = d.id) = some d ∧ x = f d := by
  induction ds generalizing seen with
  | nil => exact absurd h List.not_mem_nil
  | cons d rest ih =>
      rcases List.mem_cons.mp h with rfl | h
      · by_cases hd : d.id ∈ seen
        · exact .inl (by simp [hd])
        · exact .inr ⟨d, hd, by simp, by simp [hd]⟩
      · rcases ih h with h | ⟨e, hseen, hfind, rfl⟩
        · exact .inl (List.mem_cons_of_mem _ h)
        · obtain ⟨hne, hseen⟩ := not_or.mp (hseen ∘ List.mem_cons.mpr)
          exact .inr ⟨e, hseen, by simpa [Ne.symm hne] using hfind, rfl⟩

end Keeping

/-! ### Places -/

/-- The place of the device of a number in the list of devices. -/
def place? (n : Node) (id : DeviceId) : Option Nat :=
  n.devices.findIdx? (·.id = id)

/-- Places depend on the numbers of the devices only. -/
theorem place?_congr {m n : Node} (h : m.devices.map Device.id = n.devices.map Device.id)
    (id : DeviceId) : m.place? id = n.place? id := by
  have hmap : ∀ k : Node, k.place? id = (k.devices.map Device.id).findIdx? (· = id) := by
    intro k
    rw [place?, List.findIdx?_map]
    rfl
  rw [hmap, hmap, h]

/-! ### Changes of a node -/

section Changing

variable {f g : Device → Device} {n : Node}

/-- The numbers of the devices stay as they are. -/
theorem map_id_mapFirst (hf : ∀ d, (f d).id = d.id) :
    (n.mapFirst f).devices.map Device.id = n.devices.map Device.id :=
  map_id_mapUnseen hf _ _

/-- The device of a number after a change. -/
theorem device?_mapFirst (hf : ∀ d, (f d).id = d.id) (id : DeviceId) :
    (n.mapFirst f).device? id = (n.device? id).map f :=
  find?_mapUnseen hf List.not_mem_nil _

/-- Two changes one after the other are one change. -/
theorem mapFirst_mapFirst (hf : ∀ d, (f d).id = d.id) :
    (n.mapFirst f).mapFirst g = n.mapFirst (g ∘ f) := by
  simp only [mapFirst, mapUnseen_mapUnseen hf]

/-- Functions that agree on the devices of a node make the same change. -/
theorem mapFirst_congr (h : ∀ d ∈ n.devices, f d = g d) : n.mapFirst f = n.mapFirst g := by
  simp only [mapFirst, mapUnseen_congr fun d hd _ => h d hd]

/-- Every place of the list is as it was, unless its device is the first of its number. -/
theorem getElem?_mapFirst (i : Nat) :
    (n.mapFirst f).devices[i]? = n.devices[i]?.map fun d =>
      if n.devices.findIdx? (·.id = d.id) = some i then f d else d := by
  simp only [mapFirst, getElem?_mapUnseen, List.not_mem_nil, not_false_eq_true, true_and]

/-- A device of the changed node was there before, or is a changed first device. -/
theorem mem_mapFirst {x : Device} (h : x ∈ (n.mapFirst f).devices) :
    x ∈ n.devices ∨ ∃ d, n.device? d.id = some d ∧ x = f d := by
  rcases mem_mapUnseen h with h | ⟨d, -, hfind, hx⟩
  · exact .inl h
  · exact .inr ⟨d, hfind, hx⟩

/-- The device of a number has that number. -/
theorem id_of_device? {id : DeviceId} {d : Device} (h : n.device? id = some d) : d.id = id := by
  simpa using List.find?_some h

/-- The device of a number is one of the node. -/
theorem mem_of_device? {id : DeviceId} {d : Device} (h : n.device? id = some d) :
    d ∈ n.devices :=
  List.mem_of_find?_eq_some h

/-- What a change keeps of each first device it keeps of the whole list. -/
theorem map_mapFirst {α : Type} {g : Device → α}
    (h : ∀ id d, n.device? id = some d → g (f d) = g d) :
    (n.mapFirst f).devices.map g = n.devices.map g := by
  refine List.ext_getElem? fun i => ?_
  rw [List.getElem?_map, List.getElem?_map, getElem?_mapFirst]
  cases hi : n.devices[i]? with
  | none => rfl
  | some d =>
      simp only [Option.map_some]
      split
      · next hfirst =>
        -- The first place of a number is where the device of the number stands.
        have hfind : n.device? d.id = some d := by
          rw [device?, List.find?_eq_bind_findIdx?_getElem?, hfirst, Option.bind_some, hi]
        rw [h d.id d hfind]
      · rfl

/-- A change leaves the node as it was exactly when it leaves each first device as it was. -/
theorem mapFirst_eq_self_iff (hf : ∀ d, (f d).id = d.id) :
    n.mapFirst f = n ↔ ∀ id d, n.device? id = some d → f d = d := by
  constructor
  · intro h id d hd
    have hchanged := device?_mapFirst (n := n) hf id
    rw [h, hd] at hchanged
    exact (Option.some.inj hchanged).symm
  · intro h
    have hdevices := map_mapFirst (g := id) h
    rw [List.map_id, List.map_id] at hdevices
    obtain ⟨name, totalMemory, deviceCount, ds⟩ := n
    exact congrArg (Node.mk name totalMemory deviceCount) hdevices

/-- With distinct numbers every device is the first of its number, so every one is changed. -/
theorem mapFirst_eq_map (hids : (n.devices.map Device.id).Nodup) :
    n.mapFirst f = { n with devices := n.devices.map f } := by
  simp only [mapFirst, mapUnseen_eq_map hids fun _ _ => List.not_mem_nil]

/-- With distinct numbers every device is the first of its number. -/
theorem device?_of_mem (hids : (n.devices.map Device.id).Nodup) {d : Device}
    (hd : d ∈ n.devices) : n.device? d.id = some d := by
  obtain ⟨e, he⟩ := Option.isSome_iff_exists.mp
    (List.find?_isSome.mpr ⟨d, hd, by simp⟩ : (n.devices.find? (·.id = d.id)).isSome)
  have hsame : e = d :=
    List.inj_on_of_nodup_map hids (mem_of_device? he) hd (id_of_device? he)
  rw [← hsame] at he ⊢
  exact he

end Changing

end Node

end GpuLedger
