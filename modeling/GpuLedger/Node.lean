import GpuLedger.Error

/-!
# Nodes

A node is a list of devices with the capacity it advertises. The advertised capacity need not
match the devices: it may be given apart from them, and `Node.quota`, the memory an exclusive
container holds on each of its devices, is taken from the advertised figures alone.

## Conventions

Numbers of devices need not be distinct. A number stands for the first device that has it
(`Node.device?`), in `book` and `unbook` as well.
-/

namespace GpuLedger

/-- A node: its name, the capacity it advertises, and its devices. -/
structure Node where
  name : String
  totalMemory : Quantity
  deviceCount : Quantity
  devices : List Device
deriving DecidableEq

namespace Node

/-- The node that advertises exactly what its devices have together. -/
def ofDevices (name : String) (devices : List Device) : Except Error Node :=
  match Quantity.sum? (devices.map Device.totalMemory) with
  | some total => .ok ⟨name, total, UInt64.ofNat devices.length, devices⟩
  | none => .error .overflow

/-- The same devices under another advertised capacity. -/
def withCapacity (totalMemory deviceCount : Quantity) (n : Node) : Node :=
  { n with totalMemory, deviceCount }

/-- The memory an exclusive container holds on each of its devices: an equal part of the
advertised memory, or nothing where no device is advertised. -/
def quota (n : Node) : Quantity :=
  if n.deviceCount = 0 then 0 else n.totalMemory / n.deviceCount

/-- The device of that number. -/
def device? (n : Node) (id : DeviceId) : Option Device :=
  n.devices.find? (·.id = id)

/-- The cores used on all devices together. -/
def usedCores (n : Node) : Except Error Quantity :=
  (Quantity.sum? (n.devices.map Device.usedCores)).elim (.error .overflow) .ok

/-- The memory used on all devices together. -/
def usedMemory (n : Node) : Except Error Quantity :=
  (Quantity.sum? (n.devices.map Device.usedMemory)).elim (.error .overflow) .ok

/-! ### Changing a device -/

/-- Puts a device in place of the first one of its number. -/
def replaceFirst (d : Device) : List Device → List Device
  | [] => []
  | e :: rest => if e.id = d.id then d :: rest else e :: replaceFirst d rest

/-- Puts a device in place of the one of its number. -/
def setDevice (n : Node) (d : Device) : Node :=
  { n with devices := replaceFirst d n.devices }

/-- Books an amount on the device of that number. -/
def book (n : Node) (id : DeviceId) (a : Amount) : Except Error Node :=
  match n.device? id with
  | some d => .ok (n.setDevice (d.book a))
  | none => .error (.deviceNotFound n.name id)

/-- Gives back an amount booked on the device of that number. -/
def unbook (n : Node) (id : DeviceId) (a : Amount) : Except Error Node :=
  match n.device? id with
  | none => .error (.deviceNotFound n.name id)
  | some d =>
    match d.unbook? a with
    | some e => .ok (n.setDevice e)
    | none => .error (.bookingNotFound n.name id)

/-- Lets time pass for every booking of the node. -/
def age (time : Quantity) (n : Node) : Node :=
  { n with devices := n.devices.map (Device.age time) }

end Node

end GpuLedger
