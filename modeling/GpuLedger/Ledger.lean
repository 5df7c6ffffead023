import GpuLedger.Selection

/-!
# Ledgers

A ledger is the book in which placements are made: a node, and for a ledger kept by a registry
that may go away the number of bookings it still takes. Only bookings are counted. What is given
back and the passing of time always go through.

The containers of a workload are placed one after the other, and each one is booked before the
next is looked at, so that it sees what is left. The first container that cannot be placed ends
the whole workload. What has been booked until then stays booked: a workload that is refused as
a whole may have taken resources, and a caller that does not want them keeps the node as it was.
A workload that could be placed is handed back with annotations that say where its containers
are (`Workload.annotate`).

A placed workload is given back by these annotations (`Ledger.release`). What each container holds
is worked out again from its request and the quota of the node, in the same way as when it was
placed, and one booking of that amount is taken away on each of the devices listed for it. The first
container or device at which this fails ends it. What has been given back until then stays given
back.

## Conventions

An operation leaves a state behind whether or not it fails (`Outcome`), the one in which it ended or
was stopped. Containers that ask for no virtual cores are not placed and not counted among the
placements, but they do count in the indices of those that follow.
-/

namespace GpuLedger

/-! ### Outcomes -/

/-- What an operation leaves behind, and what it answers or why it failed. -/
structure Outcome (σ ε α : Type) where
  state : σ
  result : Except ε α

namespace Outcome

variable {σ ε α β : Type}

/-- Applies a function to the answer. -/
def map (f : α → β) (o : Outcome σ ε α) : Outcome σ ε β :=
  ⟨o.state, o.result.map f⟩

/-- Whether the operation ended. -/
def succeeded (o : Outcome σ ε α) : Bool :=
  o.result.toBool

/-- A function that is applied to the answer leaves the state alone. -/
@[simp] theorem state_map (f : α → β) (o : Outcome σ ε α) : (o.map f).state = o.state := rfl

/-- A function that is applied to the answer does not change whether there is one. -/
@[simp] theorem succeeded_map (f : α → β) (o : Outcome σ ε α) :
    (o.map f).succeeded = o.succeeded := by
  obtain ⟨s, r⟩ := o
  cases r <;> rfl

/-- A function that is applied to the answer does not change why an operation failed. -/
theorem result_map_eq_error {f : α → β} {o : Outcome σ ε α} {e : ε} :
    (o.map f).result = .error e ↔ o.result = .error e := by
  obtain ⟨s, r⟩ := o
  cases r <;> simp [map, Except.map]

end Outcome

/-! ### Booking and giving back -/

/-- A node that is placed on, and the number of bookings that are still taken; no number means
no end. -/
structure Ledger where
  node : Node
  commitsLeft : Option Nat := none
deriving DecidableEq

namespace Ledger

/-- Books an amount on a device, unless the bookings that are taken have run out. A registry counts
a booking before it looks for the device. Here the limit stays where there is no such device; the
two differ only in what is left of it after a refusal that ends in `Error.deviceNotFound`, which
placing never comes to, since it books on devices of the node only. -/
def book (l : Ledger) (id : DeviceId) (a : Amount) : Except Error Ledger :=
  match l.commitsLeft with
  | some 0 => .error (.internal "registry unavailable")
  | left => (l.node.book id a).map fun n => ⟨n, left.map (· - 1)⟩

/-- Gives back an amount booked on a device. -/
def unbook (l : Ledger) (id : DeviceId) (a : Amount) : Except Error Ledger :=
  (l.node.unbook id a).map fun n => { l with node := n }

/-- Lets time pass for every booking. -/
def age (time : Quantity) (l : Ledger) : Ledger :=
  { l with node := l.node.age time }

/-- Books one amount on several devices in turn. The first device that cannot be booked ends
it; those before it stay booked. -/
def bookAll (a : Amount) : List DeviceId → Ledger → Outcome Ledger Error Unit
  | [], l => ⟨l, .ok ()⟩
  | id :: rest, l =>
    match l.book id a with
    | .ok next => bookAll a rest next
    | .error e => ⟨l, .error e⟩

/-- Gives back one amount on several devices in turn. The first device that does not hold it
ends it; those before it stay as they are then. -/
def unbookAll (a : Amount) : List DeviceId → Ledger → Outcome Ledger Error Unit
  | [], l => ⟨l, .ok ()⟩
  | id :: rest, l =>
    match l.unbook id a with
    | .ok next => unbookAll a rest next
    | .error e => ⟨l, .error e⟩

end Ledger

/-! ### Placements -/

/-- Where a container has been placed. -/
structure Placement where
  /-- The index of the container in its workload. -/
  index : Nat
  container : String
  mode : Mode
  devices : List DeviceId
  /-- The cores it holds on each of its devices. -/
  vcore : Quantity
  /-- The memory it holds on each of its devices. -/
  vmemory : Quantity
deriving DecidableEq

/-- The devices of a placement as they are recorded in an annotation. -/
def Placement.deviceList (p : Placement) : String :=
  String.ofList (DeviceId.writeList p.devices)

/-- The devices a request is placed on; none if it cannot be placed. -/
def Policy.choose (policy : Policy) (devices : List Device) (r : Request) : List Device :=
  match r.mode with
  | .share => (Share.choose? policy.capacityFilter devices r).toList
  | .exclusive => Exclusive.choose devices r

/-! ### What a placed workload carries -/

/-- A time in nanoseconds as it is recorded in an annotation. -/
def writeTime (time : Int) : String :=
  String.ofList (if time < 0 then '-' :: Decimal.write time.natAbs else Decimal.write time.natAbs)

/-- The workload with the record of its placements on a node at a time. -/
def Workload.annotate (w : Workload) (node : String) (time : Int) (placements : List Placement) :
    Workload :=
  let placed := placements.foldl
    (fun w p => w.annotateWith (Annotations.deviceList p.index) p.deviceList) w
  ((placed.annotateWith Annotations.node node).annotateWith Annotations.assigned "false")
    |>.annotateWith Annotations.time (writeTime time)

namespace Ledger

/-! ### Placing containers -/

/-- Places one container, which stands for the one at an index of the workload. -/
def placeOne (policy : Policy) (w : Workload) (index : Nat) (c : Container) (l : Ledger) :
    Outcome Ledger Error Placement :=
  match w.request index c with
  | .error e => ⟨l, .error e⟩
  | .ok r =>
    match (policy.choose l.node.devices r).map Device.id with
    | [] => ⟨l, .error (.noFeasibleDevice c.name)⟩
    | ids =>
      let a := r.amount l.node.quota
      (bookAll a ids l).map fun _ =>
        { index, container := c.name, mode := r.mode, devices := ids,
          vcore := a.vcore, vmemory := a.vmemory }

/-- Places the containers of a workload from an index on. -/
def placeFrom (policy : Policy) (w : Workload) :
    Nat → List Container → Ledger → Outcome Ledger Error (List Placement)
  | _, [], l => ⟨l, .ok []⟩
  | index, c :: rest, l =>
    if c.RequestsGpu then
      match placeOne policy w index c l with
      | ⟨next, .ok p⟩ => (placeFrom policy w (index + 1) rest next).map (p :: ·)
      | ⟨next, .error e⟩ => ⟨next, .error e⟩
    else
      placeFrom policy w (index + 1) rest l

/-- Places all containers of a workload. -/
def placeAll (policy : Policy) (w : Workload) (l : Ledger) :
    Outcome Ledger Error (List Placement) :=
  placeFrom policy w 0 w.containers l

/-! ### Placing workloads -/

/-- Places a workload and records where. The clock may be out of the range of nanoseconds, which
is found out only after the bookings have been made. -/
def allocate (policy : Policy) (clock : Option Int) (w : Workload) (l : Ledger) :
    Outcome Ledger Error Workload :=
  match placeAll policy w l with
  | ⟨next, .error e⟩ => ⟨next, .error e⟩
  | ⟨next, .ok placements⟩ =>
    match clock with
    | none => ⟨next, .error (.internal "allocation time out of range")⟩
    | some time => ⟨next, .ok (w.annotate l.node.name time placements)⟩

/-- The placements a workload would get. The ledger itself is not touched. -/
def dryRun (policy : Policy) (w : Workload) (l : Ledger) : Except Error (List Placement) :=
  (placeAll policy w l).result

/-- Places a workload only to say whether that was possible. -/
def isAllocatable (policy : Policy) (w : Workload) (l : Ledger) : Ledger × Bool :=
  let o := placeAll policy w l
  (o.state, o.succeeded)

/-- Says whether a workload fits, in the way of the policy. -/
def isFeasible (policy : Policy) (w : Workload) (l : Ledger) : Ledger × Bool :=
  match policy.feasibility with
  | .commit => isAllocatable policy w l
  | .dryRun => (l, (dryRun policy w l).toBool)

end Ledger

/-! ### Release -/

/-- The devices listed for a container that holds some. -/
def Workload.devicesOf (w : Workload) (index : Nat) (c : Container) :
    Except Error (List DeviceId) :=
  match w.assignedDevices? index with
  | some ids => .ok ids
  | none => .error (.lookup (.unassigned c.name w.name))

namespace Ledger

/-- Gives back what the container at an index of the workload holds. The list of its devices is
looked up before its estimate. -/
def releaseOne (w : Workload) (index : Nat) (c : Container) (l : Ledger) :
    Outcome Ledger Error Unit :=
  match w.devicesOf index c with
  | .error e => ⟨l, .error e⟩
  | .ok ids =>
    match w.request index c with
    | .error e => ⟨l, .error e⟩
    | .ok r => unbookAll (r.amount l.node.quota) ids l

/-- Gives back what the containers of a workload hold from an index on. -/
def releaseFrom (w : Workload) : Nat → List Container → Ledger → Outcome Ledger Error Unit
  | _, [], l => ⟨l, .ok ()⟩
  | index, c :: rest, l =>
    if c.RequestsGpu then
      match releaseOne w index c l with
      | ⟨next, .ok ()⟩ => releaseFrom w (index + 1) rest next
      | ⟨next, .error e⟩ => ⟨next, .error e⟩
    else
      releaseFrom w (index + 1) rest l

/-- Gives back what a placed workload holds. -/
def release (w : Workload) (l : Ledger) : Outcome Ledger Error Unit :=
  releaseFrom w 0 w.containers l

end Ledger

end GpuLedger
