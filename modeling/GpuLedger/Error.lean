import GpuLedger.Decimal
import GpuLedger.Device
import GpuLedger.Text

/-!
# Errors

The causes for which an operation fails. Each is a constructor that holds what its message
names; `Error.message` is the only place where messages are worded.
-/

namespace GpuLedger

/-- Why an attribute of a workload cannot be used. -/
inductive LookupFault where
  /-- The estimated run time of a container is no quantity. -/
  | estimate (value nameSpace workload : String) (index : Nat) (fault : Decimal.Fault)
  /-- A container that holds devices does not say which. -/
  | unassigned (container workload : String)
  /-- Any other attribute. -/
  | other (text : String)
deriving DecidableEq

/-- The causes for which an operation fails. -/
inductive Error where
  /-- The configuration cannot be used. -/
  | config (text : String)
  /-- An attribute of a workload cannot be used. -/
  | lookup (fault : LookupFault)
  /-- No device can take the container. -/
  | noFeasibleDevice (container : String)
  /-- The node has no device of that number. -/
  | deviceNotFound (node : String) (device : DeviceId)
  /-- The device holds no booking of the amount to be given back. -/
  | bookingNotFound (node : String) (device : DeviceId)
  /-- No node of that name is registered. -/
  | nodeNotFound (name : String)
  /-- A file cannot be read or written. -/
  | io (text : String)
  /-- A snapshot cannot be read or written. -/
  | serialization (text : String)
  /-- Something that callers cannot cause. -/
  | internal (text : String)
  /-- A total over the devices of a node exceeds the largest quantity. -/
  | overflow
deriving DecidableEq

/-- The wording of a fault in an attribute. -/
def LookupFault.message : LookupFault → String
  | .estimate value nameSpace workload index fault =>
    "invalid estimated time " ++ String.ofList (Text.quote value.toList) ++ " for " ++ nameSpace
      ++ "/" ++ workload ++ " container " ++ String.ofList (Decimal.write index) ++ ": "
      ++ fault.message
  | .unassigned container workload =>
    "container " ++ container ++ " of workload " ++ workload ++ " has no assigned devices"
  | .other text => text

namespace Error

/-- The wording of an error. -/
def message : Error → String
  | config text => "Configuration error: " ++ text
  | lookup fault => "Lookup error: " ++ fault.message
  | noFeasibleDevice container => "failed to allocate for container " ++ container
  | deviceNotFound node device =>
    "failed to find device " ++ String.ofList (Decimal.write device.toNat) ++ " on node " ++ node
  | bookingNotFound node device =>
    "no matching booking on device " ++ String.ofList (Decimal.write device.toNat) ++ " of node "
      ++ node
  | nodeNotFound name => "Node not found: " ++ name
  | io text => "IO error: " ++ text
  | serialization text => "Serialization error: " ++ text
  | internal text => "Internal error: " ++ text
  | overflow => "attempt to add with overflow"

end Error

end GpuLedger
