import GpuLedger.Proofs.Entries

/-!
# Effects of Booking

Entries are booked one after the other, each on the first device that has its number. This module
says what that comes to, without the steps: a device has the new bookings behind those it had, in
the order of the entries and with their time starting, and each of its counters is the exact sum of
what it was and of what is added, cut off at the greatest quantity (`Device.withAmounts`). At each
place of a node the device is changed in this way by the entries for its number, if it is the first
one that has it, and stays as it was otherwise (`Node.withEntries`).

A counter is cut off after each booking, but it does not fall in between, so it is enough to cut it
off once (`Quantity.capped_addSat_add`).

## Main results

* `Device.bookAll_eq` — what several bookings on a device come to;
* `Node.postAll_eq_withEntries` — what entries that are booked on a node come to.
-/

namespace GpuLedger

/-! ### Counters -/

namespace Quantity

/-- A natural number as a quantity, or the greatest quantity where it does not fit. -/
def capped (n : Nat) : Quantity :=
  UInt64.ofNat (min n (UInt64.size - 1))

/-- The number of a cut off quantity. -/
theorem toNat_capped (n : Nat) : (capped n).toNat = min n (UInt64.size - 1) := by
  have hfits : min n (UInt64.size - 1) < UInt64.size := by
    simp only [UInt64.size]
    omega
  rw [capped, UInt64.toNat_ofNat', Nat.mod_eq_of_lt hfits]

/-- A quantity is not cut off. -/
theorem capped_toNat (q : Quantity) : capped q.toNat = q := by
  refine UInt64.toNat_inj.mp ?_
  have hfits := q.toNat_lt
  rw [toNat_capped]
  simp only [UInt64.size]
  omega

/-- A sum is cut off once, whether or not its first two terms have been cut off before. -/
theorem capped_addSat_add (p q : Quantity) (n : Nat) :
    capped ((addSat p q).toNat + n) = capped (p.toNat + (q.toNat + n)) := by
  refine UInt64.toNat_inj.mp ?_
  rw [toNat_capped, toNat_capped, toNat_addSat]
  omega

end Quantity

/-! ### Devices -/

namespace Device

/-- A device with bookings of several amounts behind those it has. Their time starts now, and each
counter is the exact sum, cut off at the greatest quantity. -/
def withAmounts (as : List Amount) (d : Device) : Device :=
  { d with
    usedCores := Quantity.capped (d.usedCores.toNat + Quantity.total (as.map Amount.vcore))
    usedMemory := Quantity.capped (d.usedMemory.toNat + Quantity.total (as.map Amount.vmemory))
    bookings := d.bookings ++ as.map fun a => { amount := a, elapsed := 0 } }

/-- No amounts change nothing. -/
@[simp] theorem withAmounts_nil (d : Device) : d.withAmounts [] = d := by
  simp [withAmounts, Quantity.total, Quantity.capped_toNat]

/-- **Several bookings** on a device, in terms of its counters and its list of bookings. -/
theorem bookAll_eq (as : List Amount) (d : Device) : d.bookAll as = d.withAmounts as := by
  induction as generalizing d with
  | nil => exact d.withAmounts_nil.symm
  | cons a rest ih =>
      rw [bookAll_cons, ih]
      simp only [withAmounts, book, List.map_cons, Quantity.total, Quantity.capped_addSat_add,
        List.append_assoc, List.singleton_append]

/-- One booking is the case of a single amount. -/
theorem book_eq (a : Amount) (d : Device) : d.book a = d.withAmounts [a] :=
  d.bookAll_eq [a]

end Device

/-! ### Nodes -/

namespace Node

/-- A node with entries booked on it. At each place the device gets the amounts that the entries
have for its number, if it is the first one of the number. -/
def withEntries (es : List Entry) (n : Node) : Node :=
  { n with devices := n.devices.mapIdx fun i d =>
      if n.place? d.id = some i then d.withAmounts (Entry.amountsOn d.id es) else d }

/-- **Entries that are booked** on a node, place by place. -/
theorem postAll_eq_withEntries (es : List Entry) (n : Node) : n.postAll es = n.withEntries es := by
  have hdevices : (n.postAll es).devices = (n.withEntries es).devices := by
    refine List.ext_getElem? fun i => ?_
    rw [postAll_eq, getElem?_mapFirst, withEntries, List.getElem?_mapIdx]
    refine Option.map_congr fun d _ => ?_
    rw [Device.bookAll_eq]
    rfl
  rw [postAll_eq] at hdevices ⊢
  exact congrArg (fun ds => { n with devices := ds }) hdevices

end Node

end GpuLedger
