import GpuLedger.Workload

/-!
# Choosing Devices

Devices are listed in an order (`Order.standard`), by a chain of keys each of which only decides
between devices that all earlier keys leave equal. Sorting is stable: devices that every key leaves
equal stay in the order in which they came.

A request for a part of a device goes to the device that is closest to the best one could hope
for (`Share.choose?`). Every candidate is described by four numbers (`Share.values`): its free
cores, its free memory, how long the container would outlast those already there, and how many those
are. The first three should be large and the last small. Each number is divided by the length of its
column and weighted; the best and the worst value of every column make up an ideal and an anti-ideal
device; and the closeness of a candidate is its distance from the anti-ideal as a part of its
distances from both.

A request for whole devices takes idle devices (`Exclusive.choose`), in their standard order and as
many as have the requested cores between them. If there are not enough of them it gets none.

A policy says which devices are considered for a shared placement, and what a question about
feasibility does to the node it is put to. It is part of what is configured (`Config`).

## Conventions

Scores are binary floating-point numbers of 64 bits. Sums run from the left, over the
candidates in their standard order or over the four numbers in the order above. Of candidates
with the same score the first one is chosen.
-/

namespace GpuLedger

/-! ## Orders of devices -/

/-- What a device can be ordered by; the smaller value comes first. -/
inductive Key where
  /-- The cores that are still free. -/
  | cores
  /-- The memory that is still free. -/
  | memory
  /-- The number of the device. -/
  | id
deriving DecidableEq

/-- Compares two devices by one key. -/
def Key.compare : Key → Device → Device → Ordering
  | cores, a, b => Ord.compare a.allocatableCores b.allocatableCores
  | memory, a, b => Ord.compare a.allocatableMemory b.allocatableMemory
  | id, a, b => Ord.compare a.id b.id

/-- Keys in the order of their weight. -/
abbrev Order := List Key

namespace Order

/-- The order in which devices are considered: the fullest first, then by number. -/
def standard : Order := [.cores, .memory, .id]

/-- Compares two devices by the first key that tells them apart. -/
def compare : Order → Device → Device → Ordering
  | [], _, _ => .eq
  | key :: rest, a, b => (key.compare a b).then (compare rest a b)

/-- Puts a device into a sorted list, in front of the first device that does not come before
it. -/
def place (o : Order) (d : Device) : List Device → List Device
  | [] => [d]
  | e :: rest => if o.compare d e = .gt then e :: place o d rest else d :: e :: rest

/-- Sorts devices. Each is placed after those that follow it in the input have been, so it ends
up in front of its equals among them. -/
def sort (o : Order) (devices : List Device) : List Device :=
  devices.foldr o.place []

end Order

/-! ## Shared placement -/

namespace Share

/-- One value for each of the four criteria. -/
structure Criteria (α : Type) where
  /-- For the free cores. -/
  cores : α
  /-- For the free memory. -/
  memory : α
  /-- For the time by which the container outlasts those already on the device. -/
  wait : α
  /-- For the number of containers already on the device. -/
  containers : α

namespace Criteria

variable {α β γ : Type}

/-- Combines the values of each criterion. -/
def zipWith (f : α → β → γ) (a : Criteria α) (b : Criteria β) : Criteria γ :=
  ⟨f a.cores b.cores, f a.memory b.memory, f a.wait b.wait, f a.containers b.containers⟩

/-- The four values in order. -/
def toList (a : Criteria α) : List α :=
  [a.cores, a.memory, a.wait, a.containers]

end Criteria

/-- The weights in percent. -/
def percent : Criteria Nat := ⟨30, 30, 20, 20⟩

/-- The weights in percent leave nothing over. -/
theorem percent_whole :
    percent.cores + percent.memory + percent.wait + percent.containers = 100 :=
  rfl

/-- The weights. -/
def weights : Criteria Float := ⟨0.3, 0.3, 0.2, 0.2⟩

/-- Each weight is as many hundredths as it has percent. -/
theorem weights_eq_percent : weights.toList = percent.toList.map fun p => Float.ofNat p / 100 := by
  decide +kernel

/-- The four numbers that describe a device to a request. -/
def values (r : Request) (d : Device) : Criteria Float :=
  ⟨d.allocatableCores.toFloat, d.allocatableMemory.toFloat,
    (Quantity.subSat r.estimatedTime d.isolatedTime).toFloat, d.containerCount.toFloat⟩

/-! ### Weighted columns -/

/-- The sum of squares, from the left. -/
def sumOfSquares (xs : List Float) : Float :=
  xs.foldl (fun sum x => sum + x * x) 0

/-- The Euclidean length of each column. -/
def lengths (rows : List (Criteria Float)) : Criteria Float :=
  ⟨(sumOfSquares (rows.map (·.cores))).sqrt, (sumOfSquares (rows.map (·.memory))).sqrt,
    (sumOfSquares (rows.map (·.wait))).sqrt, (sumOfSquares (rows.map (·.containers))).sqrt⟩

/-- A value as a part of the length of its column. A column of zeros stays one. -/
def relative (x length : Float) : Float :=
  if length == 0 then 0 else x / length

/-- A weighted value. A zero of a column of zeros is not changed by its weight. -/
def weighted (lengths row : Criteria Float) : Criteria Float :=
  weights.zipWith (· * ·) (row.zipWith relative lengths)

/-! ### Closeness to the ideal -/

/-- The larger of the values in which more is better, the smaller one of the last. -/
def better (a b : Criteria Float) : Criteria Float :=
  ⟨max a.cores b.cores, max a.memory b.memory, max a.wait b.wait, min a.containers b.containers⟩

/-- The smaller of the values in which more is better, the larger one of the last. -/
def worse (a b : Criteria Float) : Criteria Float :=
  ⟨min a.cores b.cores, min a.memory b.memory, min a.wait b.wait, max a.containers b.containers⟩

/-- The Euclidean distance of two rows. -/
def distance (a b : Criteria Float) : Float :=
  (sumOfSquares (a.zipWith (· - ·) b).toList).sqrt

/-- The distance from the worst as a part of the distances from the best and the worst, or zero
where they coincide. -/
def closeness (ideal antiIdeal row : Criteria Float) : Float :=
  let total := distance row ideal + distance row antiIdeal
  if total == 0 then 0 else distance row antiIdeal / total

/-- The closeness of each of several rows. -/
def scores : List (Criteria Float) → List Float
  | [] => []
  | first :: rest =>
    let ideal := rest.foldl better first
    let antiIdeal := rest.foldl worse first
    (first :: rest).map (closeness ideal antiIdeal)

/-! ### Ranking and choice -/

/-- A device and its closeness to the ideal, between zero and one. -/
structure Scored where
  device : Device
  closeness : Float

/-- Whether a device has the requested cores and memory free. -/
def HasRoom (r : Request) (d : Device) : Prop :=
  r.cores ≤ d.allocatableCores ∧ r.memory ≤ d.allocatableMemory

instance (r : Request) (d : Device) : Decidable (HasRoom r d) :=
  inferInstanceAs (Decidable (_ ∧ _))

/-- The devices that are considered, in their standard order: all of them, or with the filter
those that have room. -/
def candidates (capacityFilter : Bool) (devices : List Device) (r : Request) : List Device :=
  Order.standard.sort (devices.filter fun d => !capacityFilter || decide (HasRoom r d))

/-- The closeness of each of several devices, in their order. -/
def deviceScores (r : Request) (devices : List Device) : List Float :=
  let rows := devices.map (values r)
  scores (rows.map (weighted (lengths rows)))

/-- All candidates with their scores, in their standard order. -/
def rank (capacityFilter : Bool) (devices : List Device) (r : Request) : List Scored :=
  let chosen := candidates capacityFilter devices r
  chosen.zipWith Scored.mk (deviceScores r chosen)

/-- The first of the candidates that no other exceeds. -/
def best? : List Scored → Option Scored
  | [] => none
  | first :: rest =>
    some (rest.foldl (fun best s => if best.closeness < s.closeness then s else best) first)

/-- The device a request is placed on, if there is a candidate. -/
def choose? (capacityFilter : Bool) (devices : List Device) (r : Request) : Option Device :=
  (best? (rank capacityFilter devices r)).map Scored.device

end Share

/-! ## Exclusive placement -/

namespace Exclusive

/-- A device that can be given away whole: nothing is booked on it and it has the cores of a
whole device. -/
def Vacant (d : Device) : Prop :=
  d.Idle ∧ wholeDevice ≤ d.allocatableCores

instance (d : Device) : Decidable (Vacant d) :=
  inferInstanceAs (Decidable (_ ∧ _))

/-- The vacant devices in their standard order. -/
def pool (devices : List Device) : List Device :=
  Order.standard.sort (devices.filter fun d => decide (Vacant d))

/-- The devices a request is placed on: as many as it needs from the front of the pool, or none
if the pool is too small. -/
def choose (devices : List Device) (r : Request) : List Device :=
  if (pool devices).length < r.devicesNeeded then [] else (pool devices).take r.devicesNeeded

end Exclusive

/-! ## Policies -/

/-- How a question whether a workload fits is answered. -/
inductive Feasibility where
  /-- By placing it, so that the same question twice books twice. -/
  | commit
  /-- On a copy of the node, which itself stays as it is. -/
  | dryRun
deriving DecidableEq

/-- The word for a way of answering. -/
def Feasibility.name : Feasibility → String
  | commit => "commit"
  | dryRun => "dry-run"

/-- The way of answering that a word stands for. -/
def Feasibility.ofName? (name : String) : Option Feasibility :=
  if name = commit.name then some commit
  else if name = dryRun.name then some dryRun
  else none

/-- The rules by which workloads are placed. -/
structure Policy where
  /-- Whether devices without room for a request are left out of a shared placement. Without
  this a container may be placed on a device that is already too full for it. -/
  capacityFilter : Bool := false
  feasibility : Feasibility := .commit
deriving DecidableEq

/-- How proceedings are reported. Both are words as they were given. -/
structure Logging where
  /-- The least weight of what is reported. -/
  level : String := "info"
  /-- The format of a report, `json` or any other word for plain text. -/
  format : String := "text"
deriving DecidableEq

/-- A configuration. -/
structure Config where
  policy : Policy := {}
  logging : Logging := {}
deriving DecidableEq

end GpuLedger
