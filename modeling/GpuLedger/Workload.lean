import GpuLedger.Error
import GpuLedger.Node
import GpuLedger.SortedMap
import GpuLedger.Uuid

/-!
# Workloads and Requests

A workload is a list of containers that are placed on one node together. A container asks for
resources by name; it asks for a device exactly when it asks for virtual cores. Annotations
carry the rest: the estimated run time of a container before it is placed
(`Workload.estimatedTime`) and its devices afterwards (`Workload.assignedDevices?`). Both kinds of
annotation belong to one container each, and their names end in the index of the container.

What a container asks for decides how it is placed (`Request.mode`). A request for less than one
whole device shares a device with other containers and holds there what it asked for. A request for
a whole device or more is exclusive: it holds whole devices, and on each of them the quota of the
node, whatever memory it asked for.
-/

namespace GpuLedger

/-! ### Names of resources and annotations -/

namespace Resource

/-- The resource of virtual cores; 100 of them are one whole device. -/
def vcore : String := "vgpu.io/vcuda-core"

/-- The resource of virtual memory. -/
def vmemory : String := "vgpu.io/vcuda-memory"

end Resource

namespace Annotations

/-- What the names of all estimated run times begin with. -/
def estimatedTimeStem : String := "vgpu.io/estimated-time-"

/-- What the names of all device lists begin with. -/
def deviceListStem : String := "vgpu.io/predicate-gpu-idx-"

/-- The node a workload was placed on. -/
def node : String := "vgpu.io/predicate-node"

/-- Whether the node has confirmed the assignment. -/
def assigned : String := "vgpu.io/gpu-assigned"

/-- When the workload was placed, in nanoseconds. -/
def time : String := "vgpu.io/predicate-time"

/-- The estimated run time of the container at an index. -/
def estimatedTime (index : Nat) : String :=
  estimatedTimeStem ++ String.ofList (Nat.toDigits 10 index)

/-- The devices of the container at an index. -/
def deviceList (index : Nat) : String :=
  deviceListStem ++ String.ofList (Nat.toDigits 10 index)

end Annotations

/-! ### Containers and workloads -/

/-- A container and the quantities it asks for, by resource. -/
structure Container where
  name : String
  resources : SortedMap Quantity := .empty
deriving DecidableEq

namespace Container

/-- A container that asks for virtual cores and memory. -/
def withGpu (name : String) (vcore vmemory : Quantity) : Container :=
  ⟨name, (SortedMap.empty.insert Resource.vcore vcore).insert Resource.vmemory vmemory⟩

/-- How much of a resource the container asks for; nothing unless it says so. -/
def requested (c : Container) (resource : String) : Quantity :=
  (c.resources.get? resource).getD 0

/-- The virtual cores the container asks for. -/
def cores (c : Container) : Quantity := c.requested Resource.vcore

/-- The virtual memory the container asks for. -/
def memory (c : Container) : Quantity := c.requested Resource.vmemory

/-- Whether the container asks for a device, which it does by asking for cores. -/
def RequestsGpu (c : Container) : Prop := 0 < c.cores

instance (c : Container) : Decidable c.RequestsGpu :=
  inferInstanceAs (Decidable (_ < _))

end Container

/-- A workload: its identity, its annotations and its containers in order. -/
structure Workload where
  uid : Uuid
  name : String
  nameSpace : String := "default"
  annotations : SortedMap String := .empty
  containers : List Container := []
deriving DecidableEq

/-! ### Lists of devices as text -/

/-- The number of a device, with blanks around it allowed. -/
def DeviceId.read? (text : List Char) : Option DeviceId :=
  match Decimal.read (UInt32.size - 1) (Text.trim text) with
  | .ok n => some (UInt32.ofNat n)
  | .error _ => none

/-- Numbers of devices with commas between them. One piece that is no number spoils the list. -/
def DeviceId.readList? (text : List Char) : Option (List DeviceId) :=
  (Text.pieces ',' text).mapM DeviceId.read?

/-- Writes numbers of devices with commas between them. -/
def DeviceId.writeList (ids : List DeviceId) : List Char :=
  [','].intercalate (ids.map fun id => Decimal.write id.toNat)

namespace Workload

/-! ### Building a workload -/

/-- Appends a container. -/
def withContainer (c : Container) (w : Workload) : Workload :=
  { w with containers := w.containers ++ [c] }

/-- Sets an annotation. -/
def annotateWith (name value : String) (w : Workload) : Workload :=
  { w with annotations := w.annotations.insert name value }

/-- Sets the estimated run time of the container at an index. -/
def withEstimatedTime (index : Nat) (time : Quantity) (w : Workload) : Workload :=
  w.annotateWith (Annotations.estimatedTime index) (String.ofList (Decimal.write time.toNat))

/-! ### Reading annotations -/

/-- The devices recorded for the container at an index: absent where there is no record or
where the record is no list of numbers. -/
def assignedDevices? (w : Workload) (index : Nat) : Option (List DeviceId) :=
  (w.annotations.get? (Annotations.deviceList index)).bind fun text =>
    DeviceId.readList? text.toList

/-- The estimated run time of the container at an index. No estimate counts as zero; one that
is no quantity is an error. -/
def estimatedTime (w : Workload) (index : Nat) : Except Error Quantity :=
  match w.annotations.get? (Annotations.estimatedTime index) with
  | none => .ok 0
  | some text =>
    match Decimal.readQuantity (Text.trim text.toList) with
    | .ok time => .ok time
    | .error fault => .error (.lookup (.estimate text w.nameSpace w.name index fault))

end Workload

/-! ### Requests -/

/-- The virtual cores of one whole device. -/
def wholeDevice : Quantity := 100

/-- What one container asks for, and how long it is expected to run. -/
structure Request where
  cores : Quantity
  memory : Quantity
  estimatedTime : Quantity
deriving DecidableEq

/-- How a container is placed. -/
inductive Mode where
  /-- On a part of one device. -/
  | share
  /-- On one or more whole devices. -/
  | exclusive
deriving DecidableEq

/-- The word for a way of being placed. -/
def Mode.name : Mode → String
  | share => "share"
  | exclusive => "exclusive"

namespace Request

/-- The way in which a request is placed. -/
def mode (r : Request) : Mode :=
  if r.cores < wholeDevice then .share else .exclusive

/-- A request for less than a whole device shares one. -/
theorem mode_of_lt {r : Request} (h : r.cores < wholeDevice) : r.mode = .share :=
  if_pos h

/-- A request for a whole device or more is exclusive. -/
theorem mode_of_le {r : Request} (h : wholeDevice ≤ r.cores) : r.mode = .exclusive :=
  if_neg (UInt64.not_lt.mpr h)

/-- The number of whole devices that have the requested cores between them. -/
def devicesNeeded (r : Request) : Nat :=
  (r.cores.toNat + (wholeDevice.toNat - 1)) / wholeDevice.toNat

/-- What the container holds on each of its devices. -/
def amount (quota : Quantity) (r : Request) : Amount :=
  match r.mode with
  | .share => ⟨r.cores, r.memory, r.estimatedTime⟩
  | .exclusive => ⟨wholeDevice, quota, r.estimatedTime⟩

end Request

/-- The request of a container of a workload, whose index there names its estimate. -/
def Workload.request (w : Workload) (index : Nat) (c : Container) : Except Error Request :=
  (w.estimatedTime index).map fun time => ⟨c.cores, c.memory, time⟩

end GpuLedger
