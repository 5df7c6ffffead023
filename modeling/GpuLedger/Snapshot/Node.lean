import GpuLedger.Json.Printer
import GpuLedger.Json.Record
import GpuLedger.Node

/-!
# Snapshots of nodes

The JSON forms of nodes, their devices and the bookings on them. All fields are written; the
counters and bookings of a device and the age of a booking may be left out of what is read.
-/

namespace GpuLedger

open Json (FieldSpec Origin Read)

namespace Booking

/-- The virtual cores of a booking. -/
def vcoreField : FieldSpec Quantity := { name := "vcore", read := Json.readQuantity }

/-- The virtual memory of a booking. -/
def vmemoryField : FieldSpec Quantity := { name := "vmemory", read := Json.readQuantity }

/-- The run time of a booking. -/
def estimatedTimeField : FieldSpec Quantity :=
  { name := "estimated_time", read := Json.readQuantity }

/-- The age of a booking, which is new unless it says so. -/
def elapsedField : FieldSpec Quantity :=
  { name := "elapsed", read := Json.readQuantity, default := some 0 }

/-- The fields of a booking in order. -/
def fields : List Json.FieldRule :=
  [vcoreField.rule, vmemoryField.rule, estimatedTimeField.rule, elapsedField.rule]

/-- Reads a booking. -/
def ofJson (origin : Origin) (j : Json) : Read Booking := do
  let contents ← Json.Record.contents origin fields j
  return {
    amount := {
      vcore := ← vcoreField.get contents
      vmemory := ← vmemoryField.get contents
      estimatedTime := ← estimatedTimeField.get contents }
    elapsed := ← elapsedField.get contents }

/-- The form of a booking. -/
def toJson (b : Booking) : Json :=
  .ofMembers [
    (vcoreField.name, .ofNat b.amount.vcore.toNat),
    (vmemoryField.name, .ofNat b.amount.vmemory.toNat),
    (estimatedTimeField.name, .ofNat b.amount.estimatedTime.toNat),
    (elapsedField.name, .ofNat b.elapsed.toNat)]

end Booking

/-- Reads the number of a device. -/
def DeviceId.ofJson (j : Json) : Read DeviceId :=
  (Json.readNat (UInt32.size - 1) j).map UInt32.ofNat

namespace Device

/-- The number of a device. -/
def idField : FieldSpec DeviceId := { name := "id", read := DeviceId.ofJson }

/-- The cores of a device. -/
def totalCoresField : FieldSpec Quantity := { name := "total_cores", read := Json.readQuantity }

/-- The memory of a device. -/
def totalMemoryField : FieldSpec Quantity := { name := "total_memory", read := Json.readQuantity }

/-- The counter of used cores, at zero unless it is given. -/
def usedCoresField : FieldSpec Quantity :=
  { name := "used_cores", read := Json.readQuantity, default := some 0 }

/-- The counter of used memory, at zero unless it is given. -/
def usedMemoryField : FieldSpec Quantity :=
  { name := "used_memory", read := Json.readQuantity, default := some 0 }

/-- The bookings of a device, none unless they are given. -/
def bookingsField (origin : Origin) : FieldSpec (List Booking) :=
  { name := "bookings", read := Json.readList (Booking.ofJson origin), default := some [] }

/-- The fields of a device in order. -/
def fields (origin : Origin) : List Json.FieldRule :=
  [idField.rule, totalCoresField.rule, totalMemoryField.rule, usedCoresField.rule,
    usedMemoryField.rule, (bookingsField origin).rule]

/-- Reads a device. -/
def ofJson (origin : Origin) (j : Json) : Read Device := do
  let contents ← Json.Record.contents origin (fields origin) j
  return {
    id := ← idField.get contents
    totalCores := ← totalCoresField.get contents
    totalMemory := ← totalMemoryField.get contents
    usedCores := ← usedCoresField.get contents
    usedMemory := ← usedMemoryField.get contents
    bookings := ← (bookingsField origin).get contents }

/-- The form of a device. -/
def toJson (d : Device) : Json :=
  .ofMembers [
    (idField.name, .ofNat d.id.toNat),
    (totalCoresField.name, .ofNat d.totalCores.toNat),
    (totalMemoryField.name, .ofNat d.totalMemory.toNat),
    (usedCoresField.name, .ofNat d.usedCores.toNat),
    (usedMemoryField.name, .ofNat d.usedMemory.toNat),
    ((bookingsField .text).name, .ofList (d.bookings.map Booking.toJson))]

end Device

namespace Node

/-- The name of a node. -/
def nameField : FieldSpec String := { name := "name", read := Json.readString }

/-- The memory that a node advertises. -/
def totalMemoryField : FieldSpec Quantity := { name := "total_memory", read := Json.readQuantity }

/-- The number of devices that a node advertises. -/
def deviceCountField : FieldSpec Quantity := { name := "device_count", read := Json.readQuantity }

/-- The devices of a node. -/
def devicesField (origin : Origin) : FieldSpec (List Device) :=
  { name := "devices", read := Json.readList (Device.ofJson origin) }

/-- The fields of a node in order. -/
def fields (origin : Origin) : List Json.FieldRule :=
  [nameField.rule, totalMemoryField.rule, deviceCountField.rule, (devicesField origin).rule]

/-- Reads a node. -/
def ofJson (origin : Origin) (j : Json) : Read Node := do
  let contents ← Json.Record.contents origin (fields origin) j
  return {
    name := ← nameField.get contents
    totalMemory := ← totalMemoryField.get contents
    deviceCount := ← deviceCountField.get contents
    devices := ← (devicesField origin).get contents }

/-- The form of a node. -/
def toJson (n : Node) : Json :=
  .ofMembers [
    (nameField.name, .ofString n.name),
    (totalMemoryField.name, .ofNat n.totalMemory.toNat),
    (deviceCountField.name, .ofNat n.deviceCount.toNat),
    ((devicesField .text).name, .ofList (n.devices.map Device.toJson))]

/-- Reads the snapshot of a node. -/
def parse (text : String) : Read Node :=
  Json.readText (Node.ofJson .text) text

/-- The snapshot of a node, one value a line. -/
def snapshotText (n : Node) : String :=
  n.toJson.prettyText

end Node

end GpuLedger
