import GpuLedger.Quantity

/-!
# Bookings and Devices

A booking is what one container holds on one device: an `Amount` of virtual cores and memory
with the estimated run time of the container, and the time that has passed since. Only the
amount tells bookings of one device apart, so a booking is given back by naming its amount.

A device keeps two accounts of what is taken: the list of its bookings, oldest first, and two
counters of used cores and memory. The counters move with the bookings and are clamped to what
a quantity can hold; a snapshot may bring counters that its bookings do not explain, and they
are taken as they are.

## Conventions

`Device.book` appends, `Device.unbook?` takes the oldest booking of the amount away. Free
capacity is read off the counters, the isolated time off the bookings.
-/

namespace GpuLedger

/-! ### Bookings -/

/-- What a container holds on a device: virtual cores (100 are one whole device), virtual
memory, and the time the container is expected to run. -/
structure Amount where
  vcore : Quantity
  vmemory : Quantity
  estimatedTime : Quantity
deriving DecidableEq

/-- An amount booked on a device, and how long ago that was. -/
structure Booking where
  amount : Amount
  elapsed : Quantity := 0
deriving DecidableEq

namespace Booking

/-- The time left before the container is expected to finish. -/
def remaining (b : Booking) : Quantity :=
  Quantity.subSat b.amount.estimatedTime b.elapsed

/-- Lets time pass. A booking's age stays at the greatest quantity once it is reached. -/
def age (time : Quantity) (b : Booking) : Booking :=
  { b with elapsed := Quantity.addSat b.elapsed time }

/-- Age is not part of what is booked. -/
@[simp] theorem amount_age (time : Quantity) (b : Booking) : (b.age time).amount = b.amount :=
  rfl

end Booking

/-! ### Devices -/

/-- The number of a device on its node. -/
abbrev DeviceId := UInt32

/-- A device: its capacity, what is taken of it, and the bookings of the containers sharing it. -/
structure Device where
  id : DeviceId
  totalCores : Quantity
  totalMemory : Quantity
  usedCores : Quantity := 0
  usedMemory : Quantity := 0
  bookings : List Booking := []
deriving DecidableEq

namespace Device

/-- The cores that are still free. A device with more cores used than it has offers none. -/
def allocatableCores (d : Device) : Quantity :=
  Quantity.subSat d.totalCores d.usedCores

/-- The memory that is still free. -/
def allocatableMemory (d : Device) : Quantity :=
  Quantity.subSat d.totalMemory d.usedMemory

/-- The time until the longest of the booked containers should have finished. -/
def isolatedTime (d : Device) : Quantity :=
  (d.bookings.map Booking.remaining).foldr max 0

/-- The number of containers sharing the device. -/
def containerCount (d : Device) : Quantity :=
  UInt64.ofNat d.bookings.length

/-- Nothing is booked on the device and nothing is counted as used. -/
def Idle (d : Device) : Prop :=
  d.usedCores = 0 ∧ d.usedMemory = 0 ∧ d.bookings = []

instance (d : Device) : Decidable d.Idle :=
  inferInstanceAs (Decidable (_ ∧ _ ∧ _))

/-! ### Booking and giving back -/

/-- Books an amount for a new container, whose time starts now. -/
def book (a : Amount) (d : Device) : Device :=
  { d with
    usedCores := Quantity.addSat d.usedCores a.vcore
    usedMemory := Quantity.addSat d.usedMemory a.vmemory
    bookings := d.bookings ++ [{ amount := a }] }

/-- Takes the oldest booking of the amount away, if there is one. -/
def unbook? (a : Amount) (d : Device) : Option Device :=
  if d.bookings.any (·.amount = a) then
    some { d with
      usedCores := Quantity.subSat d.usedCores a.vcore
      usedMemory := Quantity.subSat d.usedMemory a.vmemory
      bookings := d.bookings.eraseP (·.amount = a) }
  else
    none

/-- Lets time pass for every booking. -/
def age (time : Quantity) (d : Device) : Device :=
  { d with bookings := d.bookings.map (Booking.age time) }

/-- A device keeps its number when something is booked on it. -/
@[simp] theorem id_book (a : Amount) (d : Device) : (d.book a).id = d.id := rfl

/-- A device keeps its number as time passes. -/
@[simp] theorem id_age (time : Quantity) (d : Device) : (d.age time).id = d.id := rfl

end Device

end GpuLedger
