import GpuLedger.Proofs.Returns

/-!
# The Passing of Time

Time is counted on each booking, and nothing else of a node depends on it. Ages stop at the
greatest quantity, so the laws of aging are laws of clamped sums: two times that pass one after the
other are one time, their clamped sum (`Node.age_age`), and what a device has left falls by the time
that passes, down to nothing (`Device.isolatedTime_age`). A clamped age can be too small only where
the estimate has run out long ago, since no estimate exceeds the greatest quantity.

A booking is given back by its amount, whatever its age. So it makes no difference whether time
passes before or after a release (`Ledger.release_age`): the same bookings are found on the same
devices, and where the release is stopped it is stopped at the same place for the same reason.

## Main results

* `Node.age_age` — times that pass one after the other;
* `Node.agedBy_age` — what passing time does to a node, and what it leaves alone;
* `Ledger.release_age` — releasing and the passing of time do not depend on their order.
-/

namespace GpuLedger

namespace Quantity

/-- Clamped sums may be taken in any order: what exceeds the greatest quantity stays there. -/
theorem addSat_assoc (p q r : Quantity) : addSat (addSat p q) r = addSat p (addSat q r) := by
  refine UInt64.toNat_inj.mp ?_
  simp only [toNat_addSat]
  omega

/-- What is left of a quantity after a clamped sum has been used up. -/
theorem subSat_addSat (p q r : Quantity) : subSat p (addSat q r) = subSat (subSat p q) r := by
  have hp := p.toNat_lt
  refine UInt64.toNat_inj.mp ?_
  simp only [toNat_subSat, toNat_addSat, UInt64.size]
  omega

/-- The larger quantity has the larger number. -/
theorem toNat_max (p q : Quantity) : (max p q).toNat = max p.toNat q.toNat := by
  have hmax : max p q = if p ≤ q then q else p := rfl
  rw [hmax]
  split
  · next hle => exact (Nat.max_eq_right (UInt64.le_iff_toNat_le.mp hle)).symm
  · next hlt =>
    have hge : q ≤ p := UInt64.le_of_lt (UInt64.not_le.mp hlt)
    exact (Nat.max_eq_left (UInt64.le_iff_toNat_le.mp hge)).symm

/-- The larger of two quantities is the larger one still after the same has been taken off. -/
theorem subSat_max (p q r : Quantity) :
    subSat (max p q) r = max (subSat p r) (subSat q r) := by
  refine UInt64.toNat_inj.mp ?_
  simp only [toNat_subSat, toNat_max]
  omega

end Quantity

/-! ### Times that pass one after the other -/

namespace Booking

/-- Two times that pass make a booking as old as their sum, cut off at the greatest quantity. -/
theorem age_age (s t : Quantity) (b : Booking) :
    (b.age s).age t = b.age (Quantity.addSat s t) :=
  congrArg (Booking.mk b.amount) (Quantity.addSat_assoc b.elapsed s t)

/-- The time that passes is no longer left. -/
theorem remaining_age (t : Quantity) (b : Booking) :
    (b.age t).remaining = Quantity.subSat b.remaining t :=
  Quantity.subSat_addSat b.amount.estimatedTime b.elapsed t

/-- An amount is found whatever the ages of the bookings. -/
theorem erase_map_age (t : Quantity) (a : Amount) (bs : List Booking) :
    erase a (bs.map (age t)) = (erase a bs).map (age t) := by
  rw [erase, List.eraseP_map]
  rfl

end Booking

namespace Device

/-- Two times that pass are one time for every booking of a device. -/
theorem age_age (s t : Quantity) (d : Device) :
    (d.age s).age t = d.age (Quantity.addSat s t) := by
  have hbookings : (d.bookings.map (Booking.age s)).map (Booking.age t)
      = d.bookings.map (Booking.age (Quantity.addSat s t)) := by
    rw [List.map_map]
    exact List.map_congr_left fun b _ => b.age_age s t
  simp only [age, hbookings]

/-- **The isolated time** falls by the time that passes, and not below nothing. -/
theorem isolatedTime_age (t : Quantity) (d : Device) :
    (d.age t).isolatedTime = Quantity.subSat d.isolatedTime t := by
  rw [isolatedTime, isolatedTime, age]
  induction d.bookings with
  | nil => exact UInt64.toNat_inj.mp (by rw [Quantity.toNat_subSat]; exact (Nat.zero_sub _).symm)
  | cons b rest ih =>
      simp only [List.map_cons, List.foldr_cons] at ih ⊢
      rw [ih, Quantity.subSat_max, b.remaining_age]

/-- A device that another one has become by the passing of time: less time is left on it, and the
rest is as it was, the order of its bookings included. -/
structure AgedBy (time : Quantity) (d e : Device) : Prop where
  id : e.id = d.id
  totalCores : e.totalCores = d.totalCores
  totalMemory : e.totalMemory = d.totalMemory
  usedCores : e.usedCores = d.usedCores
  usedMemory : e.usedMemory = d.usedMemory
  amounts : e.bookings.map Booking.amount = d.bookings.map Booking.amount
  /-- The difference of natural numbers, which is zero where more time passes than is left. -/
  isolatedTime : e.isolatedTime.toNat = d.isolatedTime.toNat - time.toNat

/-- A device over which a time has passed differs from before by that time only. -/
theorem agedBy_age (t : Quantity) (d : Device) : d.AgedBy t (d.age t) where
  id := rfl
  totalCores := rfl
  totalMemory := rfl
  usedCores := rfl
  usedMemory := rfl
  amounts := d.amounts_age t
  isolatedTime := by rw [isolatedTime_age, Quantity.toNat_subSat]

/-- What a device gives back does not depend on ages. -/
theorem unbook_age (t : Quantity) (a : Amount) (d : Device) :
    (d.age t).unbook a = (d.unbook a).age t := by
  by_cases h : a ∈ d.amounts
  · have haged : a ∈ (d.age t).amounts := by rwa [amounts_age]
    rw [unbook_of_mem h, unbook_of_mem haged]
    simp only [age, Booking.erase_map_age]
  · have haged : a ∉ (d.age t).amounts := by rwa [amounts_age]
    rw [unbook_of_notMem h, unbook_of_notMem haged]

end Device

namespace Node

/-- **Times that pass one after the other** are one time. -/
theorem age_age (s t : Quantity) (n : Node) :
    (n.age s).age t = n.age (Quantity.addSat s t) := by
  have hdevices : (n.devices.map (Device.age s)).map (Device.age t)
      = n.devices.map (Device.age (Quantity.addSat s t)) := by
    rw [List.map_map]
    exact List.map_congr_left fun d _ => d.age_age s t
  simp only [age, hdevices]

/-- A node that another one has become by the passing of time: it advertises the same, and each of
its devices, in their order, has become older by that time. -/
structure AgedBy (time : Quantity) (n m : Node) : Prop where
  name : m.name = n.name
  totalMemory : m.totalMemory = n.totalMemory
  deviceCount : m.deviceCount = n.deviceCount
  devices : List.Forall₂ (Device.AgedBy time) n.devices m.devices

/-- A node over which a time has passed differs from before by that time only. -/
theorem agedBy_age (t : Quantity) (n : Node) : n.AgedBy t (n.age t) where
  name := rfl
  totalMemory := rfl
  deviceCount := rfl
  devices := List.forall₂_map_right_iff.mpr (List.forall₂_same.mpr fun d _ => d.agedBy_age t)

/-! ### Giving back entries of any age -/

/-- A change that does not depend on ages can be made before or after time passes. -/
theorem mapUnseen_map_age {f : Device → Device} {t : Quantity}
    (hf : ∀ d : Device, f (d.age t) = (f d).age t) (seen : List DeviceId) (ds : List Device) :
    mapUnseen f seen (ds.map (Device.age t)) = (mapUnseen f seen ds).map (Device.age t) := by
  induction ds generalizing seen with
  | nil => rfl
  | cons d rest ih =>
      simp only [List.map_cons, mapUnseen, Device.id_age, hf, ih]
      split <;> rfl

/-- Taking an entry away does not mind how old its booking is. -/
theorem unpost_age (t : Quantity) (e : Entry) (n : Node) :
    (n.age t).unpost e = (n.unpost e).age t := by
  have hentry : ∀ d : Device, Device.apply Device.unbook e (d.age t)
      = (Device.apply Device.unbook e d).age t := by
    intro d
    simp only [Device.apply, Device.id_age, Device.unbook_age]
    split <;> rfl
  simp only [unpost, mapFirst, age, mapUnseen_map_age hentry]

/-- An entry is given back from an older node as from the node itself, or refused for the same
reason. -/
theorem unbook_age (t : Quantity) (e : Entry) (n : Node) :
    (n.age t).unbook e.device e.amount = (n.unbook e.device e.amount).map (age t) := by
  by_cases h : e.amount ∈ n.held e.device
  · have haged : e.amount ∈ (n.age t).held e.device := by rwa [held_age]
    rw [unbook_eq_ok h, unbook_eq_ok haged, unpost_age]
    rfl
  · have haged : e.amount ∉ (n.age t).held e.device := by rwa [held_age]
    rw [unbook_of_notMem h, unbook_of_notMem haged, device?_age, Option.isSome_map]
    rfl

end Node

namespace Ledger

/-- **One entry**: it is given back before or after time passes. -/
theorem unbook_age (t : Quantity) (e : Entry) (l : Ledger) :
    (l.age t).unbook e.device e.amount = (l.unbook e.device e.amount).map (age t) := by
  rw [unbook, unbook, age, Node.unbook_age]
  cases l.node.unbook e.device e.amount <;> rfl

/-- **Several entries**: they are given back before or after time passes, as far as it goes. -/
theorem returnAll_age (t : Quantity) (es : List Entry) (l : Ledger) :
    returnAll es (l.age t) = ⟨(returnAll es l).state.age t, (returnAll es l).result⟩ := by
  induction es generalizing l with
  | nil => rfl
  | cons e rest ih =>
      rw [returnAll, returnAll, unbook_age]
      cases l.unbook e.device e.amount with
      | error err => rfl
      | ok next => exact ih next

/-- **A release and the passing of time** do not depend on their order, also where the release is
stopped. -/
theorem release_age (t : Quantity) (w : Workload) (l : Ledger) :
    release w (l.age t) = ⟨(release w l).state.age t, (release w l).result⟩ := by
  have hquota : (l.age t).node.quota = l.node.quota := rfl
  rw [release_eq, release_eq, hquota, returnAll_age]
  rcases returnAll (w.dues l.node.quota).1 l with ⟨next, e | _⟩ <;> rfl

end Ledger

/-- **The laws of aging.** Times that pass one after the other are one time, their sum as far as it
can be counted. What is left to wait for a device falls by the time that passes, or to nothing, and
nothing else about a node changes but the ages of its bookings. And whatever workload is given back,
also where its release fails midway, the same is answered and the same node is left behind whether
time passes before or after it. -/
theorem aging_laws (n : Node) :
    (∀ s t : Quantity,
      (n.age s).age t = n.age (UInt64.ofNat (min (s.toNat + t.toNat) (UInt64.size - 1)))) ∧
    (∀ t : Quantity, n.AgedBy t (n.age t)) ∧
    ∀ (w : Workload) (t : Quantity) (commitsLeft : Option Nat),
      let o := Ledger.release w ⟨n, commitsLeft⟩
      Ledger.release w ⟨n.age t, commitsLeft⟩ = ⟨o.state.age t, o.result⟩ := by
  refine ⟨fun s t => ?_, fun t => n.agedBy_age t, fun w t commitsLeft => ?_⟩
  · rw [Node.age_age, ← Quantity.toNat_addSat, UInt64.ofNat_toNat]
  · exact Ledger.release_age t w ⟨n, commitsLeft⟩

end GpuLedger
